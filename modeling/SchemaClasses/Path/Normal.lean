import SchemaClasses.Path.Basic

/-!
# Normal paths

`Path.normalize` removes every `.` and lets `..` cancel the name before it; at the root `..` goes nowhere, and a
relative path keeps the `..` it opens with. Nothing is looked up on a disk: the files a path names need not exist.
-/

namespace SchemaClasses.Path

/-- One more component on a stack, top first, of components already reduced. -/
def push : List Component → Component → List Component
  | stack, .current => stack
  | .name _ :: below, .parent => below
  | .root :: below, .parent => .root :: below
  | stack, c => c :: stack

/-- Components without `.` and with `..` only where a relative path opens. -/
def reduce (cs : List Component) : List Component := (cs.foldl push []).reverse

/-- The normal form of a path. -/
def normalize (p : Path) : Path := ofComponents (reduce p.components)

/-- The normal form of `p`, seen from the directory `cwd`. -/
def anchored (p cwd : Path) : Path := if p.isAbsolute then normalize p else normalize (cwd.join p)

end SchemaClasses.Path
