import SampleSchema.Text.Point
import SampleSchema.Text.WordChar
/-!
Singular forms of English plural nouns.

A rule looks at the end of a word: it keeps an ending that starts with one of
its stems, exchanges what follows the stem and leaves all before it as it is.
The rules are tried in order and the first that fits is applied. Letters are
compared without regard to case, where the long s counts as `s`, the Kelvin sign
as `k` and the dotted and the dotless i as `i`. A line feed at the end of the word
is passed over. Halves of surrogate pairs are like characters that are no letters.
-/

namespace SampleSchema.Naming

open SampleSchema.Text

/-- A letter as it is compared. -/
def foldLetter (c : Char) : Char :=
  if c = 'ſ' then 's'
  else if c = '\u212A' then 'k'
  else if c = 'İ' ∨ c = 'ı' then 'i'
  else c.toLower

def foldPoint (p : Point) : Char := foldLetter p.shown

/-- What a rule asks of the characters just before those it exchanges. -/
inductive Stem where
  /-- These letters. -/
  | letters (s : String)
  /-- One character that is none of these letters. -/
  | noneOf (s : String)

/-- One rule: after a stem, any of `endings` is exchanged for `replacement`. -/
structure SingularRule where
  stems : List Stem
  endings : List String
  replacement : String

namespace Stem

def fits (reversed : Points) : Stem → Bool
  | letters s => (reversed.map foldPoint).take s.length == s.toList.reverse
  | noneOf s =>
      match reversed with
      | [] => false
      | p :: _ => !s.toList.contains (foldPoint p)

end Stem

namespace SingularRule

/-- The word without the ending that the rule exchanges, both reversed. -/
def rest? (rule : SingularRule) (reversed : Points) : Option Points :=
  rule.endings.findSome? fun ending =>
    let e := ending.toList.reverse
    let rest := reversed.drop e.length
    if ((reversed.take e.length).map foldPoint == e) && rule.stems.any (·.fits rest)
    then some rest else none

/-- The word that the rule makes of a reversed word, if it fits. -/
def exchange? (rule : SingularRule) (reversed : Points) : Option Points :=
  (rule.rest? reversed).map fun rest => rest.reverse ++ rule.replacement

end SingularRule

/-- The ending after any of the stems is exchanged for the replacement. -/
private def rule (stems endings : List String) (replacement : String) : SingularRule :=
  ⟨stems.map .letters, endings, replacement⟩

/-- Nouns whose plural is like their singular. -/
def uncountable : List String :=
  ["equipment", "fish", "information", "jeans", "money", "rice", "series", "sheep",
    "species"]

/-- The rules that are tried after the one for `kine` and before the one for `oxen`. -/
def earlyRules : List SingularRule :=
  [rule ["m"] ["oves"] "ove",
    rule ["s"] ["exes"] "ex",
    rule ["c"] ["hildren"] "hild",
    rule ["h"] ["umans"] "uman",
    rule ["m"] ["en"] "an",
    rule ["p"] ["eople"] "erson",
    rule ["database"] ["s"] "",
    rule ["quiz"] ["zes"] "",
    rule ["matr"] ["ices"] "ix",
    rule ["vert", "ind"] ["ices"] "ex",
    rule ["passer"] ["sby"] "by"]

/-- The rules that are tried after the one for `oxen` and before the one for `axes`. -/
def middleRules : List SingularRule :=
  [rule ["alias", "status"] ["es", ""] "",
    rule ["octop", "vir"] ["us", "i"] "us"]

/-- The rules that are tried after the one for `axes`. -/
def lateRules : List SingularRule :=
  [rule ["cris", "test"] ["is", "es"] "is",
    rule ["shoe"] ["s"] "",
    rule ["o"] ["es"] "",
    rule ["bus"] ["es", ""] "",
    rule ["m", "l"] ["ice"] "ouse",
    rule ["x", "ch", "ss", "sh"] ["es"] "",
    rule ["m"] ["ovies"] "ovie",
    rule ["s"] ["eries"] "eries",
    ⟨[.noneOf "aeiouy", .letters "qu"], ["ies"], "y"⟩,
    rule ["l", "r"] ["ves"] "f",
    rule ["tive"] ["s"] "",
    rule ["hive"] ["s"] "",
    ⟨[.noneOf "f"], ["ves"], "fe"⟩,
    rule ["t"] ["hesis", "heses"] "hesis",
    rule ["s"] ["ynopsis", "ynopses"] "ynopsis",
    rule ["p"] ["rognosis", "rognoses"] "rognosis",
    rule ["p"] ["arenthesis", "arentheses"] "arenthesis",
    rule ["d"] ["iagnosis", "iagnoses"] "iagnosis",
    rule ["b"] ["asis", "ases"] "asis",
    rule ["a"] ["nalysis", "nalyses"] "nalysis",
    rule ["t", "i"] ["a"] "um",
    rule ["n"] ["ews"] "ews",
    rule ["ss"] [""] "",
    rule [""] ["s"] ""]

/-- The rule for `zombies`, which is tried before all others. -/
def zombieRule : SingularRule := rule ["z"] ["ombies"] "ombie"

/-- `kine`, in any case of its ASCII letters, becomes `cow`; a capital stays. -/
def cow? : Points → Option Points
  | e :: n :: i :: k :: rest =>
      if e.shown.toLower = 'e' ∧ n.shown.toLower = 'n' ∧ i.shown.toLower = 'i' then
        if k = 'k' then some (rest.reverse ++ "cow")
        else if k = 'K' then some (rest.reverse ++ "Cow")
        else none
      else none
  | _ => none

/-- A word that starts with `oxen` loses the last two of these letters. -/
def ox? (word : Points) : Option Points :=
  if (word.take 4).map foldPoint == ['o', 'x', 'e', 'n'] then
    some (word.take 2 ++ word.drop 4)
  else none

/-- The whole words `axes` and `axis` become `axis`. -/
def axis? : Points → Option Points
  | [a, x, v, s] =>
      if foldPoint a = 'a' ∧ foldPoint x = 'x' ∧ (foldPoint v = 'i' ∨ foldPoint v = 'e')
          ∧ foldPoint s = 's'
      then some [a, 'x', 'i', 's'] else none
  | _ => none

/-- The word is, or ends in, an uncountable noun that starts a word of its own. -/
def isUncountable (word : Points) : Bool :=
  uncountable.any fun noun =>
    let reversed := word.reverse
    let n := noun.toList.reverse
    ((reversed.take n.length).map foldPoint == n) &&
      match reversed.drop n.length with
      | [] => true
      | p :: _ => !isWordChar p.shown

/-- The word without a line feed at its end, and that line feed. -/
def cutFinalBreak (word : Points) : Points × Points :=
  if word.getLast? = some (.char '\n') then (word.dropLast, "\n") else (word, [])

/-- Try a list of rules on the reversed end of a word. -/
def firstRule (rules : List SingularRule) (reversed : Points) : Option Points :=
  rules.findSome? (·.exchange? reversed)

def applyRules (word : Points) : Points :=
  let (body, final) := cutFinalBreak word
  let reversed := body.reverse
  let whole := (ox? word)
  match (zombieRule.exchange? reversed).or ((cow? reversed).or (firstRule earlyRules reversed)) with
  | some s => s ++ final
  | none =>
    match whole with
    | some s => s
    | none =>
      match (firstRule middleRules reversed).or
          ((axis? body).or (firstRule lateRules reversed)) with
      | some s => s ++ final
      | none => word

/-- The singular of a word. A word that no rule fits is its own singular. -/
def singular (word : Points) : Points :=
  if isUncountable word then word else applyRules word

end SampleSchema.Naming
