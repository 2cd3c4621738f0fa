import SchemaClasses.Text.Casing
import SchemaClasses.Text.Grapheme

/-!
# Snake case

`snakeCase` writes the words of a name in lower case with underscores between them. Words end at `_`, `-` and blank,
where a lower-case letter meets a capital, where letters meet digits, and before the last of several capitals that a
lower-case letter follows (`HTTPServer` is `http_server`). What counts is the grapheme cluster, so an accent stays
with its letter. Two separators in a row hold an empty word between them.
-/

namespace SchemaClasses.Text
namespace SnakeCase

/-- Whether a cluster is in upper case and has another case. -/
def isUpper (g : List Char) : Bool := uppercase g != lowercase g && g == uppercase g

/-- Whether a cluster is in lower case and has another case. -/
def isLower (g : List Char) : Bool := uppercase g != lowercase g && g == lowercase g

/-- Whether a cluster is an ASCII digit. -/
def isDigit (g : List Char) : Bool := g.all Char.isDigit

/-- Whether a cluster stands between words and belongs to none. -/
def isSeparator (g : List Char) : Bool := g == ['_'] || g == ['-'] || g == [' ']

/-- Whether a word ends behind the cluster `g`, which `rest` follows. -/
def endsWord (g : List Char) (rest : List (List Char)) : Bool :=
  match rest with
  | [] => false
  | h :: after =>
    (isLower g && isUpper h) || ((isLower g || isUpper g) && isDigit h) || (isDigit g && (isLower h || isUpper h))
      || (isUpper g && isUpper h && (after.head?.map isLower).getD false)

/-- The first word, and the other words. -/
def wordsFrom : List (List Char) → List (List Char) × List (List (List Char))
  | [] => ([], [])
  | g :: rest =>
    let (word, words) := wordsFrom rest
    if isSeparator g then ([], word :: words)
    else if endsWord g rest then ([g], word :: words)
    else (g :: word, words)

/-- The words of a name; an empty name has none. -/
def words (cs : List Char) : List (List Char) :=
  match Grapheme.clusters cs with
  | [] => []
  | gs => ((wordsFrom gs).1 :: (wordsFrom gs).2).map List.flatten

end SnakeCase

/-- A name in snake case. -/
def snakeCase (name : String) : String :=
  String.ofList (['_'].intercalate ((SnakeCase.words name.toList).map lowercase))

end SchemaClasses.Text
