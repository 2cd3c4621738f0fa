import SchemaClasses.Path.Normal

/-!
# Paths between files

`Path.relative p base` leads from the directory `base` to `p`: up with `..` to the last directory both share, then
down by name. `Path.specifier src dst` is the module specifier by which the TypeScript file `src` imports `dst`: the
way from the directory of `src`, without `.d.ts` or `.ts`, opening with `./` or `../`.
-/

namespace SchemaClasses.Path

/-- Two lists without what they both start with. -/
def dropCommon {α : Type} [DecidableEq α] : List α → List α → List α × List α
  | a :: as, b :: bs => if a = b then dropCommon as bs else (a :: as, b :: bs)
  | as, bs => (as, bs)

/-- The way from one reduced component list to another. -/
def way (target base : List Component) : List Component :=
  match dropCommon target base with
  | (down, up) => up.map (fun _ => .parent) ++ down

/-- The way from the directory `base` to `p`, or `p` itself when only one of the two is absolute. -/
def relative (p base : Path) : Path :=
  let p := p.normalize
  let base := base.normalize
  if p.isAbsolute = base.isAbsolute then ofComponents (way p.components base.components) else p

/-- The components of a path but the root, separated by slashes. -/
def slashed (p : Path) : String := "/".intercalate ((p.components.filter (· ≠ .root)).map Component.text)

/-- The text before `suffix`, if `s` ends in it. -/
def dropSuffix? (suffix s : List Char) : Option (List Char) :=
  if suffix <:+ s then some (s.take (s.length - suffix.length)) else none

/-- A file name without `.d.ts`, else without `.ts`. -/
def dropExtension (s : List Char) : List Char :=
  ((dropSuffix? ".d.ts".toList s).or (dropSuffix? ".ts".toList s)).getD s

/-- A way that says by its first characters that it is relative. -/
def markRelative (s : List Char) : List Char :=
  if "./".toList <+: s ∨ "../".toList <+: s then s
  else if s = "..".toList then "../".toList
  else "./".toList ++ s

/-- The specifier by which the file `src` imports the file `dst`. -/
def specifier (src dst : Path) : String :=
  let way := (dst.relative (src.parent?.getD ⟨""⟩)).slashed
  String.ofList (markRelative (dropExtension way.toList))

end SchemaClasses.Path
