import SlotKeeper.Ident.Uuid
import SlotKeeper.Script.Reply

/-!
# Renaming identifiers in answers

Answers show generated identifiers by stable names: each known identifier's text is replaced, in
every string of an answer, by the name given to it. Identifiers are named in the order in which
answers first show them.

An identifier's text is the 8-4-4-4-12 form in hexadecimal; `uuidTexts` finds the lowercase ones
in a string, left to right, without overlaps, and `shownTexts` in every string of a value, with
arrays in order and object members by key. `rewriteIds` rewrites them in either case.

Strings are also scanned in 36-byte windows, one from each character boundary; a window that
ends inside a character crashes the scan (`windowCrash`). A 32-character run id is scanned in its
hyphenated grouping (`groupingCrash`).
-/

namespace SlotKeeper.Script

open Json

/-- Replaces occurrences of a non-empty `pattern`, scanning at most `fuel` characters. -/
def replaceChars (pattern replacement : List Char) : Nat → List Char → List Char
  | 0, cs => cs
  | _, [] => []
  | fuel + 1, c :: rest =>
    if pattern ≠ [] ∧ pattern.isPrefixOf (c :: rest) then
      replacement ++ replaceChars pattern replacement fuel ((c :: rest).drop pattern.length)
    else c :: replaceChars pattern replacement fuel rest

/-- Replaces every occurrence of `pattern` in `s`; each step consumes a character, so the
length of `s` is enough fuel. -/
def replaceText (s pattern replacement : String) : String :=
  String.ofList (replaceChars pattern.toList replacement.toList s.length s.toList)

mutual
/-- Applies a function to every string of a value. -/
def mapStrings (f : String → String) : Json → Json
  | .string s => .string (f s)
  | .array items => .array (mapStringsItems f items)
  | .object members => .object (mapStringsMembers f members)
  | other => other

/-- Applies a function to every string of a list of values. -/
def mapStringsItems (f : String → String) : List Json → List Json
  | [] => []
  | x :: rest => mapStrings f x :: mapStringsItems f rest

/-- Applies a function to every string of the members' values. -/
def mapStringsMembers (f : String → String) : List (String × Json) → List (String × Json)
  | [] => []
  | (k, v) :: rest => (k, mapStrings f v) :: mapStringsMembers f rest
end

/-- Replaces each identifier's text by its name. -/
def renameIds (names : List (Uuid × String)) (j : Json) : Json :=
  mapStrings (fun s => names.foldl (fun acc (u, n) => replaceText acc u.render n) s) j

/-- Whether a character is a lowercase hexadecimal digit. -/
def isLowerHex (c : Char) : Bool := ('0' ≤ c && c ≤ '9') || ('a' ≤ c && c ≤ 'f')

/-- Whether a character is a hexadecimal digit in either case. -/
def isAnyHex (c : Char) : Bool := isLowerHex c || ('A' ≤ c && c ≤ 'F')

/-- The positions of the hyphens in an identifier's text. -/
def hyphenPositions : List Nat := [8, 13, 18, 23]

/-- Whether the characters start with an identifier's text whose digits satisfy `hex`. -/
def startsWithUuidOf (hex : Char → Bool) (cs : List Char) : Bool :=
  let head := cs.take 36
  head.length == 36 &&
    head.zipIdx.all fun (c, i) => if hyphenPositions.contains i then c == '-' else hex c

/-- Whether the characters start with an identifier's text in lowercase. -/
def startsWithUuid (cs : List Char) : Bool := startsWithUuidOf isLowerHex cs

/-- The identifier texts among the characters, scanning at most `fuel` of them. -/
def uuidTextsAux (hex : Char → Bool) : Nat → List Char → List String
  | 0, _ => []
  | _, [] => []
  | fuel + 1, c :: rest =>
    if startsWithUuidOf hex (c :: rest) then
      String.ofList ((c :: rest).take 36) :: uuidTextsAux hex fuel ((c :: rest).drop 36)
    else uuidTextsAux hex fuel rest

/-- The identifier texts in a string whose digits satisfy `hex`, left to right. -/
def uuidTextsOf (hex : Char → Bool) (s : String) : List String := uuidTextsAux hex s.length s.toList

/-- The lowercase identifier texts in a string, left to right. -/
def uuidTexts (s : String) : List String := uuidTextsOf isLowerHex s

mutual
/-- The strings of a value, in reading order: arrays in order, object members by key. -/
def stringsOf : Json → List String
  | .string s => [s]
  | .array items => stringsOfItems items
  | .object members => stringsOfMembers members
  | _ => []

/-- The strings of a list of values. -/
def stringsOfItems : List Json → List String
  | [] => []
  | x :: rest => stringsOf x ++ stringsOfItems rest

/-- The strings of the members' values. -/
def stringsOfMembers : List (String × Json) → List String
  | [] => []
  | (_, v) :: rest => stringsOf v ++ stringsOfMembers rest
end

mutual
/-- Every key and string of a value. -/
def textsIn : Json → List String
  | .string s => [s]
  | .array items => textsInItems items
  | .object members => textsInMembers members
  | _ => []

/-- Every key and string of a list of values. -/
def textsInItems : List Json → List String
  | [] => []
  | x :: rest => textsIn x ++ textsInItems rest

/-- Every key and string of the members. -/
def textsInMembers : List (String × Json) → List String
  | [] => []
  | (k, v) :: rest => k :: (textsIn v ++ textsInMembers rest)
end

/-- The lowercase identifier texts in every string of a value, in reading order. -/
def shownTexts (j : Json) : List String := (stringsOf j).flatMap uuidTexts

/-- Rewrites every identifier text among the characters, scanning at most `fuel` of them. -/
def rewriteIdsAux (hex : Char → Bool) (rename : String → String) : Nat → List Char → List Char
  | 0, cs => cs
  | _, [] => []
  | fuel + 1, c :: rest =>
    if startsWithUuidOf hex (c :: rest) then
      (rename (String.ofList ((c :: rest).take 36))).toList ++
        rewriteIdsAux hex rename fuel ((c :: rest).drop 36)
    else c :: rewriteIdsAux hex rename fuel rest

/-- Rewrites every identifier text, in either case, in every string of a value. -/
def rewriteIds (rename : String → String) (j : Json) : Json :=
  mapStrings (fun s => String.ofList (rewriteIdsAux isAnyHex rename s.length s.toList)) j

/-- The characters with the byte offset each starts at, the first at `p`. -/
def offsetsFrom : Nat → List Char → List (Char × Nat)
  | _, [] => []
  | p, c :: rest => (c, p) :: offsetsFrom (p + c.utf8Size) rest

/-- The character whose bytes strictly contain byte `e`, with the range of its bytes. -/
def straddling (e : Nat) (cs : List (Char × Nat)) : Option (Char × Nat × Nat) :=
  (cs.find? fun (c, q) => decide (q < e) && decide (e < q + c.utf8Size)).map
    fun (c, q) => (c, q, q + c.utf8Size)

/-- Scans 36-byte windows from each character boundary in turn, skipping past identifier texts,
and stops at the first window that ends inside a character: its end and that character's bytes,
counted from the window's start, as the scan slices off what it has passed. Each step drops a
character, so the number of characters is enough fuel. -/
def windowBreakAux (total : Nat) (all : List (Char × Nat)) :
    Nat → List (Char × Nat) → Option (Nat × Char × Nat × Nat)
  | 0, _ => none
  | _, [] => none
  | fuel + 1, (c, p) :: rest =>
    if p + 36 ≤ total then
      match straddling (p + 36) all with
      | some (ch, a, b) => some (36, ch, a - p, b - p)
      | none =>
        if startsWithUuidOf isAnyHex (c :: rest.map (·.1)) then
          windowBreakAux total all fuel (((c, p) :: rest).drop 36)
        else windowBreakAux total all fuel rest
    else none

/-- Where the window scan of a string first ends inside a character, if anywhere. -/
def windowBreak (s : String) : Option (Nat × Char × Nat × Nat) :=
  let all := offsetsFrom 0 s.toList
  windowBreakAux s.utf8ByteSize all all.length all

/-- A character as a diagnostic quotes it, between single quotes. -/
def charQuote (c : Char) : String :=
  "'" ++ (if c = '\'' then "\\'" else if c = '"' then "\"" else debugChar c) ++ "'"

/-- The crash of a window scan that ends inside a character. -/
def windowCrash (s : String) : Option String :=
  (windowBreak s).map fun (e, c, a, b) =>
    "end byte index " ++ toString e ++ " is not a char boundary; it is inside " ++ charQuote c ++
      " (bytes " ++ toString a ++ ".." ++ toString b ++ " of string)"

/-- A text of 32 characters in the grouping of an identifier's text: hyphens after the 8th,
12th, 16th and 20th characters. -/
def hyphenated (t : String) : String :=
  let cs := t.toList
  String.ofList (cs.take 8 ++ '-' :: (cs.drop 8).take 4 ++ '-' :: (cs.drop 12).take 4 ++
    '-' :: (cs.drop 16).take 4 ++ '-' :: cs.drop 20)

/-- The crash of reading a 32-character run id: its hyphenated grouping is window-scanned. Other
texts are read as they are. -/
def groupingCrash (t : String) : Option String :=
  if t.length = 32 then windowCrash (hyphenated t) else none

/-- Records identifiers not seen before, in order. -/
def noteIds (seen : List Uuid) (ids : List Uuid) : List Uuid :=
  ids.foldl (fun acc u => if acc.contains u then acc else acc ++ [u]) seen

end SlotKeeper.Script
