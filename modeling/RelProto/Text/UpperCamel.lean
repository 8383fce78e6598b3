import RelProto.Text.Alphanumeric
import RelProto.Text.Basic
import RelProto.Text.Lowercase
import RelProto.Text.Uppercased

/-! Names in upper camel case. A name is cut at every character that is neither letter nor number
and where the case of its letters changes; each word is capitalised and the words are joined. -/
namespace RelProto.Text

def isAlphanumeric (c : Char) : Bool := alphanumeric.contains c

/-- The case of the letters read last in the current word. -/
inductive Trend where
  | unknown
  | lower
  | upper
  deriving DecidableEq

def Trend.after (trend : Trend) (c : Char) : Trend :=
  if isLower c then .lower else if isUpper c then .upper else trend

/-- Cuts a piece into words. A word ends before a capital that follows lowercase, and before the
last of several capitals when a lowercase letter comes next. `word` is the current word so far,
last character first. -/
def wordsFrom (trend : Trend) (word : List Char) : List Char → List (List Char)
  | [] => []
  | [c] => [(c :: word).reverse]
  | c :: next :: rest =>
    if trend.after c = .lower && isUpper next then
      (c :: word).reverse :: wordsFrom .unknown [] (next :: rest)
    else if trend = .upper && isUpper c && isLower next then
      word.reverse :: wordsFrom .unknown [c] (next :: rest)
    else wordsFrom (trend.after c) (c :: word) (next :: rest)

/-- The lowercase of the rest of a word, in which a last sigma is final. -/
def lowerTail : List Char → List Char
  | [] => []
  | [c] => if c = 'Σ' then ['ς'] else toLowercase c
  | c :: rest => toLowercase c ++ lowerTail rest

def capitalize : List Char → List Char
  | [] => []
  | c :: rest => toUppercase c ++ lowerTail rest

def words (s : List Char) : List (List Char) :=
  (split (!isAlphanumeric ·) s).flatMap (wordsFrom .unknown [])

def upperCamel (s : String) : String :=
  String.ofList ((words s.toList).flatMap capitalize)

example : upperCamel "user_product_part" = "UserProductPart" := by decide +kernel
example : upperCamel "XMLHttpRequest2go" = "XmlHttpRequest2go" := by decide +kernel

end RelProto.Text
