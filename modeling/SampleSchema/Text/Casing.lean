import SampleSchema.Text.CaseTable
/-!
Case mappings of characters and words. A mapping can give several characters,
and a capital sigma is lowered to its final form at the end of a word.
-/

namespace SampleSchema.Text

open CaseTable

private def ofCodes (codes : List Nat) : List Char := codes.map Char.ofNat

/-- The first of the mappings that has an entry for the character, or else the
character itself. -/
private def mapped (c : Char) (found : Option (List Nat)) : List Char :=
  match found with
  | some codes => ofCodes codes
  | none => [c]

def toUpper (c : Char) : List Char :=
  if c.toNat < 0x80 then [c.toUpper]
  else mapped c ((upperExpansions.lookup c.toNat).or
    ((shifted? upper c.toNat).map ([·])))

def toLower (c : Char) : List Char :=
  if c.toNat < 0x80 then [c.toLower]
  else mapped c ((lowerExpansions.lookup c.toNat).or
    ((shifted? lower c.toNat).map ([·])))

/-- The title-case form of a character: its upper-case form unless the tables
give it one of its own. -/
def toTitle (c : Char) : List Char :=
  if c.toNat < 0x80 then [c.toUpper]
  else match (titleExpansions.lookup c.toNat).or ((shifted? title c.toNat).map ([·])) with
    | some codes => ofCodes codes
    | none => toUpper c

def isUpper (c : Char) : Bool := inRanges upperRanges c.toNat

/-- The nearest character that is not passed over has a case. -/
def nextToCased (side : List Char) : Bool :=
  match side.dropWhile (fun c => inRanges ignorableRanges c.toNat) with
  | [] => false
  | c :: _ => inRanges casedRanges c.toNat

/-- Lower the characters that are left. `before` holds the characters already
passed, nearest first: a capital sigma takes its final form when a cased
character comes before it and none comes after it. -/
def lowerRest (before : List Char) : List Char → List Char
  | [] => []
  | c :: rest =>
      let low :=
        if c = 'Σ' then
          if nextToCased before && !nextToCased rest then ['ς'] else ['σ']
        else toLower c
      low ++ lowerRest (c :: before) rest

/-- A word with its first character in title case and the others in lower case. -/
def capitalize : List Char → List Char
  | [] => []
  | c :: rest => toTitle c ++ lowerRest [c] rest

def upperFirst : List Char → List Char
  | [] => []
  | c :: rest => toUpper c ++ rest

def lowerFirst : List Char → List Char
  | [] => []
  | c :: rest => toLower c ++ rest

end SampleSchema.Text
