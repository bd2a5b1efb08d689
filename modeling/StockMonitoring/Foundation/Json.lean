import StockMonitoring.Foundation.Digits
import Mathlib.Data.List.Nodup

set_option autoImplicit false

/-!
# Foundation: flat JSON objects

`json.dumps` and `json.loads` on dicts of scalars, with the separators and escapes that Python
writes by default.  `loads` reads what `dumps` writes (`loads_dumps`).  It refuses nested
values, booleans and floats, which no dict here has.
-/

namespace StockMonitoring.Foundation

/-- A value of a flat object. -/
inductive JsonScalar where
  | null
  | int (value : Int)
  | str (text : String)
  deriving DecidableEq

/-- A dict of scalars, in insertion order. -/
structure JsonObject where
  members : List (String × JsonScalar)
  nodup : (members.map Prod.fst).Nodup
  deriving DecidableEq

namespace Json

/-- The double quote and the backslash. -/
def quote : Char := '\x22'
def backslash : Char := '\x5c'

/-! ## Strings -/

/-- The UTF-16 code units of a character. -/
def utf16 (char : Char) : List Nat :=
  if char.toNat < 0x10000 then [char.toNat]
  else [0xD800 + (char.toNat - 0x10000) / 0x400, 0xDC00 + (char.toNat - 0x10000) % 0x400]

/-- A code unit as `\uXXXX`. -/
def escapeUnit (unit : Nat) : List Char :=
  [backslash, 'u', Nat.digitChar (unit / 0x1000 % 16), Nat.digitChar (unit / 0x100 % 16),
    Nat.digitChar (unit / 0x10 % 16), Nat.digitChar (unit % 16)]

/-- The characters with an escape of their own, with the letter of it. -/
def shortEscapes : List (Char × Char) :=
  [(quote, quote), (backslash, backslash), ('\n', 'n'), ('\r', 'r'), ('\t', 't'),
    ('\x0c', 'f'), ('\x08', 'b')]

/-- `ESCAPE_ASCII`: how a character is written in a string. -/
def escapeChar (char : Char) : List Char :=
  match shortEscapes.lookup char with
  | some letter => [backslash, letter]
  | none =>
      if ' ' ≤ char ∧ char ≤ '~' then [char] else (utf16 char).flatMap escapeUnit

def dumpString (text : String) : List Char :=
  quote :: text.toList.flatMap escapeChar ++ [quote]

/-- The code unit of four hexadecimal digits. -/
def unitOf? (a b c d : Char) : Option Nat := do
  let a ← hexValue? a
  let b ← hexValue? b
  let c ← hexValue? c
  let d ← hexValue? d
  return ((a * 16 + b) * 16 + c) * 16 + d

/-- What a letter after a backslash stands for. -/
def unescape? (letter : Char) : Option Nat :=
  if letter = '/' then some letter.toNat
  else (shortEscapes.find? fun escape => escape.2 = letter).map fun escape => escape.1.toNat

/-- The code units up to the closing quote, with the text after it. -/
def scanUnits : List Char → Option (List Nat × List Char)
  | [] => none
  | char :: rest =>
      if char = quote then some ([], rest)
      else if char = backslash then
        match rest with
        | 'u' :: a :: b :: c :: d :: rest => do
            let unit ← unitOf? a b c d
            let scanned ← scanUnits rest
            return (unit :: scanned.1, scanned.2)
        | letter :: rest => do
            let unit ← unescape? letter
            let scanned ← scanUnits rest
            return (unit :: scanned.1, scanned.2)
        | [] => none
      else if char < ' ' then none
      else (scanUnits rest).map fun scanned => (char.toNat :: scanned.1, scanned.2)

/-- The characters of code units; a surrogate on its own is none. -/
def joinUnits : List Nat → Option (List Char)
  | [] => some []
  | [unit] => if unit.isValidChar then some [Char.ofNat unit] else none
  | high :: low :: units =>
      if 0xD800 ≤ high ∧ high ≤ 0xDBFF ∧ 0xDC00 ≤ low ∧ low ≤ 0xDFFF then
        (joinUnits units).map
          (Char.ofNat (0x10000 + (high - 0xD800) * 0x400 + (low - 0xDC00)) :: ·)
      else if high.isValidChar then (joinUnits (low :: units)).map (Char.ofNat high :: ·)
      else none

/-- `scanstring`, after the opening quote. -/
def scanString (text : List Char) : Option (String × List Char) := do
  let scanned ← scanUnits text
  let chars ← joinUnits scanned.1
  return (String.ofList chars, scanned.2)

theorem scanUnits_quote (rest : List Char) : scanUnits (quote :: rest) = some ([], rest) := by
  rw [scanUnits.eq_def]
  exact if_pos rfl

theorem scanUnits_plain {char : Char} {rest : List Char} (hquote : char ≠ quote)
    (hbackslash : char ≠ backslash) (hcontrol : ¬ char < ' ') :
    scanUnits (char :: rest) =
      (scanUnits rest).map fun scanned => (char.toNat :: scanned.1, scanned.2) := by
  rw [scanUnits.eq_def]
  dsimp only
  rw [if_neg hquote, if_neg hbackslash, if_neg hcontrol]

theorem unitOf?_digitChar {unit : Nat} (hunit : unit < 0x10000) :
    unitOf? (Nat.digitChar (unit / 0x1000 % 16)) (Nat.digitChar (unit / 0x100 % 16))
      (Nat.digitChar (unit / 0x10 % 16)) (Nat.digitChar (unit % 16)) = some unit := by
  have hdigit : ∀ value, hexValue? (Nat.digitChar (value % 16)) = some (value % 16) := fun value =>
    hexValue?_digitChar (value % 16) (Nat.mod_lt _ (by omega))
  simp only [unitOf?, hdigit, Option.bind_eq_bind, Option.bind_some]
  have hsum : ((unit / 0x1000 % 16 * 16 + unit / 0x100 % 16) * 16 + unit / 0x10 % 16) * 16 +
      unit % 16 = unit := by
    omega
  exact congrArg some hsum

theorem scanUnits_escapeUnit {unit : Nat} (hunit : unit < 0x10000) (rest : List Char) :
    scanUnits (escapeUnit unit ++ rest) =
      (scanUnits rest).map fun scanned => (unit :: scanned.1, scanned.2) := by
  have hquote : ¬ backslash = quote := by decide
  simp only [escapeUnit, List.cons_append, List.nil_append]
  rw [scanUnits, if_neg hquote, if_pos rfl]
  simp only [unitOf?_digitChar hunit, Option.bind_eq_bind, Option.bind_some]
  cases scanUnits rest <;> rfl

/-- A letter of `shortEscapes` stands for its character. -/
theorem unescape?_letter : ∀ escape ∈ shortEscapes,
    unescape? escape.2 = some escape.1.toNat ∧ escape.2 ≠ 'u' ∧ escape.1.toNat < 0x10000 := by
  decide

theorem mem_of_lookup {char letter : Char} (hlookup : shortEscapes.lookup char = some letter) :
    (char, letter) ∈ shortEscapes := by
  obtain ⟨before, after, hsplit, _⟩ := List.lookup_eq_some_iff.mp hlookup
  rw [hsplit]
  exact List.mem_append_right _ List.mem_cons_self

theorem utf16_lt {char : Char} {unit : Nat} (hunit : unit ∈ utf16 char) : unit < 0x10000 := by
  have hvalid : char.toNat < 0x110000 := by
    rcases char.valid with hlow | ⟨_, hhigh⟩
    · exact Nat.lt_trans hlow (by decide)
    · exact hhigh
  unfold utf16 at hunit
  split at hunit
  · rw [List.mem_singleton] at hunit
    omega
  · simp only [List.mem_cons, List.not_mem_nil, or_false] at hunit
    omega

theorem scanUnits_escapeUnits {units : List Nat} (hunits : ∀ unit ∈ units, unit < 0x10000)
    (rest : List Char) :
    scanUnits (units.flatMap escapeUnit ++ rest) =
      (scanUnits rest).map fun scanned => (units ++ scanned.1, scanned.2) := by
  induction units with
  | nil => simp
  | cons unit units ih =>
      rw [List.flatMap_cons, List.append_assoc, scanUnits_escapeUnit (hunits unit (by simp)),
        ih fun other hother => hunits other (by simp [hother]), Option.map_map]
      rfl

/-- A character is read as its code units. -/
theorem scanUnits_escapeChar (char : Char) (rest : List Char) :
    scanUnits (escapeChar char ++ rest) =
      (scanUnits rest).map fun scanned => (utf16 char ++ scanned.1, scanned.2) := by
  unfold escapeChar
  cases hlookup : shortEscapes.lookup char with
  | some letter =>
      obtain ⟨hletter, hplain, hsmall⟩ := unescape?_letter _ (mem_of_lookup hlookup)
      have hquote : ¬ backslash = quote := by decide
      simp only [List.cons_append, List.nil_append]
      rw [scanUnits, if_neg hquote, if_pos rfl]
      · simp only [hletter, utf16, if_pos hsmall, Option.bind_eq_bind, Option.bind_some]
        cases scanUnits rest <;> rfl
      · intro _ _ _ _ _ hu
        exact absurd hu hplain
  | none =>
      dsimp only
      split
      · rename_i hprintable
        have hnone := List.lookup_eq_none_iff.mp hlookup
        have hquote : char ≠ quote := by simpa using hnone (quote, quote) (by decide)
        have hbackslash : char ≠ backslash := by
          simpa using hnone (backslash, backslash) (by decide)
        have hcontrol : ¬ char < ' ' := Char.not_lt.mpr hprintable.1
        have hsmall : char.toNat < 0x10000 := Nat.lt_of_le_of_lt hprintable.2 (by decide)
        rw [List.singleton_append, scanUnits_plain hquote hbackslash hcontrol, utf16,
          if_pos hsmall]
        rfl
      · exact scanUnits_escapeUnits (fun _ => utf16_lt) rest

theorem joinUnits_utf16 (char : Char) (units : List Nat) :
    joinUnits (utf16 char ++ units) = (joinUnits units).map (char :: ·) := by
  have hvalid : char.toNat.isValidChar := char.valid
  unfold utf16
  split
  · rename_i hsmall
    have hhigh : ¬ (0xD800 ≤ char.toNat ∧ char.toNat ≤ 0xDBFF) := by
      rintro ⟨hlow, hhigh⟩
      rcases hvalid with hbelow | ⟨habove, _⟩ <;> omega
    cases units with
    | nil => simp [joinUnits, hvalid]
    | cons low units =>
        rw [List.singleton_append, joinUnits, if_neg (fun hpair => hhigh ⟨hpair.1, hpair.2.1⟩),
          if_pos hvalid, Char.ofNat_toNat]
  · rename_i hlarge
    have hbound : char.toNat < 0x110000 := by
      rcases hvalid with hbelow | ⟨_, habove⟩ <;> omega
    rw [List.cons_append, List.singleton_append, joinUnits, if_pos (by omega)]
    have hjoined : 0x10000 + (0xD800 + (char.toNat - 0x10000) / 0x400 - 0xD800) * 0x400 +
        (0xDC00 + (char.toNat - 0x10000) % 0x400 - 0xDC00) = char.toNat := by
      omega
    rw [hjoined, Char.ofNat_toNat]

theorem scanUnits_escaped (chars rest : List Char) :
    scanUnits (chars.flatMap escapeChar ++ quote :: rest) = some (chars.flatMap utf16, rest) := by
  induction chars with
  | nil => exact scanUnits_quote rest
  | cons char chars ih =>
      rw [List.flatMap_cons, List.append_assoc, scanUnits_escapeChar, ih, List.flatMap_cons]
      rfl

theorem joinUnits_flatMap (chars : List Char) : joinUnits (chars.flatMap utf16) = some chars := by
  induction chars with
  | nil => rfl
  | cons char chars ih => rw [List.flatMap_cons, joinUnits_utf16, ih, Option.map_some]

theorem scanString_dumpString (text : String) (rest : List Char) :
    scanString (text.toList.flatMap escapeChar ++ quote :: rest) = some (text, rest) := by
  simp [scanString, scanUnits_escaped, joinUnits_flatMap]

/-! ## Numbers and scalars -/

/-- How an `int` is written. -/
def dumpInt : Int → List Char
  | .ofNat value => Nat.toDigits 10 value
  | .negSucc value => '-' :: Nat.toDigits 10 (value + 1)

def dumpScalar : JsonScalar → List Char
  | .null => ['n', 'u', 'l', 'l']
  | .int value => dumpInt value
  | .str text => dumpString text

/-- What makes a number a float, or a longer number. -/
def inNumber (char : Char) : Bool :=
  char.isDigit || char = '.' || char = 'e' || char = 'E'

/-- `NUMBER_RE`, for integers: no leading zero, and no fraction or exponent. -/
def scanNat (text : List Char) : Option (Nat × List Char) :=
  let digits := text.takeWhile Char.isDigit
  let rest := text.dropWhile Char.isDigit
  if digits = [] ∨ (digits.head? = some '0' ∧ digits ≠ ['0']) ∨ rest.head?.any inNumber then none
  else some (Nat.ofDigitChars 10 digits 0, rest)

/-- `scan_once`, for the values of a flat object. -/
def scanOnce : List Char → Option (JsonScalar × List Char)
  | 'n' :: 'u' :: 'l' :: 'l' :: rest => some (.null, rest)
  | '-' :: rest => (scanNat rest).map fun scanned => (.int (-scanned.1), scanned.2)
  | char :: rest =>
      if char = quote then (scanString rest).map fun scanned => (.str scanned.1, scanned.2)
      else (scanNat (char :: rest)).map fun scanned => (.int scanned.1, scanned.2)
  | [] => none

theorem scanNat_toDigits (value : Nat) {rest : List Char} (hrest : StopsAt inNumber rest) :
    scanNat (Nat.toDigits 10 value ++ rest) = some (value, rest) := by
  have hdigits : ∀ digit ∈ Nat.toDigits 10 value, digit.isDigit = true := fun _ =>
    Nat.isDigit_of_mem_toDigits (by omega) (by omega)
  have hstop : StopsAt Char.isDigit rest := by
    intro first hfirst
    have hnot := hrest first hfirst
    simp only [inNumber, Bool.or_eq_false_iff] at hnot
    exact hnot.1.1.1
  have hnext : rest.head?.any inNumber = false := by
    cases hhead : rest.head? with
    | none => rfl
    | some first => exact hrest first hhead
  have hzero : ¬ ((Nat.toDigits 10 value).head? = some '0' ∧ Nat.toDigits 10 value ≠ ['0']) := by
    rintro ⟨hhead, hne⟩
    rw [eq_zero_of_head?_toDigits value hhead] at hne
    exact hne (Nat.toDigits_zero 10)
  simp only [scanNat, takeWhile_append_of_stopsAt hdigits hstop,
    dropWhile_append_of_stopsAt hdigits hstop]
  rw [if_neg, Nat.ofDigitChars_ten_toDigits]
  rintro (hnil | hleading | hlonger)
  · exact Nat.toDigits_ne_nil hnil
  · exact hzero hleading
  · rw [hnext] at hlonger
    cases hlonger

theorem scanOnce_toDigits (value : Nat) {rest : List Char} (hrest : StopsAt inNumber rest) :
    scanOnce (Nat.toDigits 10 value ++ rest) = some (.int value, rest) := by
  have hscan := scanNat_toDigits value hrest
  cases hdigits : Nat.toDigits 10 value with
  | nil => exact absurd hdigits Nat.toDigits_ne_nil
  | cons digit digits =>
      have hdigit : digit.isDigit = true :=
        Nat.isDigit_of_mem_toDigits (b := 10) (n := value) (by omega) (by omega) (by simp [hdigits])
      have hne : ∀ other : Char, other.isDigit = false → digit ≠ other := by
        rintro other hother rfl
        rw [hdigit] at hother
        cases hother
      rw [hdigits] at hscan
      rw [List.cons_append] at hscan ⊢
      rw [scanOnce.eq_def]
      split
      · rename_i heq
        exact absurd (List.cons.inj heq).1 (hne 'n' (by decide))
      · rename_i heq
        exact absurd (List.cons.inj heq).1 (hne '-' (by decide))
      · rename_i heq
        obtain ⟨rfl, rfl⟩ := List.cons.inj heq
        rw [if_neg (hne quote (by decide)), hscan]
        rfl
      · rename_i heq
        cases heq

/-- A value is read back, whatever follows it in an object. -/
theorem scanOnce_dumpScalar (value : JsonScalar) {rest : List Char}
    (hrest : StopsAt inNumber rest) :
    scanOnce (dumpScalar value ++ rest) = some (value, rest) := by
  cases value with
  | null => rfl
  | int value =>
      cases value with
      | ofNat value => exact scanOnce_toDigits value hrest
      | negSucc value =>
          simp only [dumpScalar, dumpInt, List.cons_append]
          rw [scanOnce, scanNat_toDigits _ hrest]
          rfl
  | str text =>
      simp only [dumpScalar, dumpString, List.cons_append, List.append_assoc,
        List.nil_append]
      have hscan : scanOnce (quote :: (text.toList.flatMap escapeChar ++ quote :: rest)) =
          (scanString (text.toList.flatMap escapeChar ++ quote :: rest)).map
            fun scanned => (.str scanned.1, scanned.2) := rfl
      rw [hscan, scanString_dumpString]
      rfl

/-! ## Objects -/

/-- The white space between tokens. -/
def isSpace (char : Char) : Bool := char = ' ' || char = '\t' || char = '\n' || char = '\r'

def skipSpace (text : List Char) : List Char := text.dropWhile isSpace

def dumpMember (member : String × JsonScalar) : List Char :=
  dumpString member.1 ++ ':' :: ' ' :: dumpScalar member.2

/-- The members with `, ` between them, and the closing brace. -/
def dumpMembers : List (String × JsonScalar) → List Char
  | [] => ['\x7d']
  | [member] => dumpMember member ++ ['\x7d']
  | member :: members => dumpMember member ++ ',' :: ' ' :: dumpMembers members

/-- `json.dumps`. -/
def dumps (object : JsonObject) : String := String.ofList ('\x7b' :: dumpMembers object.members)

/-- One `"key": value`, with the text after the white space behind it. -/
def scanMember : List Char → Option ((String × JsonScalar) × List Char)
  | [] => none
  | first :: rest =>
      if first = quote then do
        let key ← scanString rest
        match skipSpace key.2 with
        | ':' :: rest => do
            let value ← scanOnce (skipSpace rest)
            return ((key.1, value.1), skipSpace value.2)
        | _ => none
      else none

/-- `JSONObject`, after the opening brace and the white space; the fuel bounds the members. -/
def scanMembers : Nat → List Char → Option (List (String × JsonScalar) × List Char)
  | 0, _ => none
  | fuel + 1, text => do
      let member ← scanMember text
      match member.2 with
      | '\x7d' :: rest => some ([member.1], rest)
      | ',' :: rest => do
          let scanned ← scanMembers fuel (skipSpace rest)
          return (member.1 :: scanned.1, scanned.2)
      | _ => none

/-- Sets a key, in its place if the dict has it. -/
def setMember (members : List (String × JsonScalar)) (member : String × JsonScalar) :
    List (String × JsonScalar) :=
  if member.1 ∈ members.map Prod.fst then
    members.map fun old => if old.1 = member.1 then member else old
  else members ++ [member]

theorem keys_setMember (members : List (String × JsonScalar)) (member : String × JsonScalar) :
    (setMember members member).map Prod.fst =
      if member.1 ∈ members.map Prod.fst then members.map Prod.fst
      else members.map Prod.fst ++ [member.1] := by
  unfold setMember
  split
  · rw [List.map_map]
    refine List.map_congr_left fun old _ => ?_
    by_cases hsame : old.1 = member.1
    · simp [hsame]
    · simp [hsame]
  · simp

theorem nodup_setMember {members : List (String × JsonScalar)}
    (hnodup : (members.map Prod.fst).Nodup) (member : String × JsonScalar) :
    ((setMember members member).map Prod.fst).Nodup := by
  rw [keys_setMember]
  split
  · exact hnodup
  · rename_i hnew
    rw [← List.concat_eq_append]
    exact hnodup.concat hnew

theorem nodup_foldl_setMember {members : List (String × JsonScalar)}
    (hnodup : (members.map Prod.fst).Nodup) (pairs : List (String × JsonScalar)) :
    ((pairs.foldl setMember members).map Prod.fst).Nodup := by
  induction pairs generalizing members with
  | nil => exact hnodup
  | cons pair pairs ih => exact ih (nodup_setMember hnodup pair)

/-- `dict(pairs)`. -/
def ofPairs (pairs : List (String × JsonScalar)) : JsonObject where
  members := pairs.foldl setMember []
  nodup := @nodup_foldl_setMember [] List.nodup_nil pairs

/-- `json.loads`. -/
def loads (text : String) : Option JsonObject :=
  match skipSpace text.toList with
  | '\x7b' :: rest => do
      let rest := skipSpace rest
      let scanned ←
        match rest with
        | '\x7d' :: rest => some ([], rest)
        | rest => scanMembers rest.length rest
      if skipSpace scanned.2 = [] then some (ofPairs scanned.1) else none
  | _ => none

/-- Pairs with keys of their own are kept as they are. -/
theorem foldl_setMember_eq {members pairs : List (String × JsonScalar)}
    (hnodup : ((members ++ pairs).map Prod.fst).Nodup) :
    pairs.foldl setMember members = members ++ pairs := by
  induction pairs generalizing members with
  | nil => simp
  | cons pair pairs ih =>
      have hnew : pair.1 ∉ members.map Prod.fst := by
        rw [List.map_append, List.map_cons] at hnodup
        intro hold
        exact (List.nodup_append.mp hnodup).2.2 _ hold _ List.mem_cons_self rfl
      have hset : setMember members pair = members ++ [pair] := if_neg hnew
      rw [List.foldl_cons, hset, ih, List.append_assoc, List.singleton_append]
      rw [List.append_assoc, List.singleton_append]
      exact hnodup

theorem ofPairs_members (object : JsonObject) : ofPairs object.members = object := by
  have hmembers : object.members.foldl setMember [] = object.members :=
    foldl_setMember_eq object.nodup
  cases object
  simp only [ofPairs, hmembers]

theorem skipSpace_of_stopsAt {text : List Char} (htext : StopsAt isSpace text) :
    skipSpace text = text := by
  have hnone : ∀ char ∈ ([] : List Char), isSpace char := by simp
  exact dropWhile_append_of_stopsAt hnone htext

theorem skipSpace_space (text : List Char) : skipSpace (' ' :: text) = skipSpace text := rfl

/-- No value begins with white space. -/
theorem stopsAt_dumpScalar (value : JsonScalar) (rest : List Char) :
    StopsAt isSpace (dumpScalar value ++ rest) := by
  cases value with
  | null => exact stopsAt_cons rfl
  | str text => exact stopsAt_cons rfl
  | int value =>
      cases value with
      | negSucc value => exact stopsAt_cons rfl
      | ofNat value =>
          simp only [dumpScalar, dumpInt]
          intro first hfirst
          rw [List.head?_append_of_ne_nil _ Nat.toDigits_ne_nil] at hfirst
          have hdigit : first.isDigit = true := Nat.isDigit_of_mem_toDigits (b := 10) (n := value)
            (by omega) (by omega) (List.mem_of_mem_head? hfirst)
          by_contra hspace
          simp only [isSpace, Bool.not_eq_false, Bool.or_eq_true, decide_eq_true_eq] at hspace
          rcases hspace with ((rfl | rfl) | rfl) | rfl <;> cases hdigit

theorem scanMember_dumpMember (member : String × JsonScalar) {rest : List Char}
    (hnumber : StopsAt inNumber rest) (hspace : StopsAt isSpace rest) :
    scanMember (dumpMember member ++ rest) = some (member, rest) := by
  have hcolon : StopsAt isSpace (':' :: ' ' :: (dumpScalar member.2 ++ rest)) := stopsAt_cons rfl
  simp only [dumpMember, dumpString, List.cons_append, List.append_assoc, List.nil_append,
    scanMember, if_pos, scanString_dumpString, Option.bind_eq_bind, Option.bind_some,
    skipSpace_of_stopsAt hcolon, skipSpace_space, skipSpace_of_stopsAt (stopsAt_dumpScalar _ _),
    scanOnce_dumpScalar member.2 hnumber, skipSpace_of_stopsAt hspace]
  rfl

/-- An object that is not empty goes on with a key. -/
theorem dumpMembers_eq_quote {members : List (String × JsonScalar)} (hne : members ≠ []) :
    ∃ rest, dumpMembers members = quote :: rest := by
  cases members with
  | nil => exact absurd rfl hne
  | cons member members => cases members <;> exact ⟨_, rfl⟩

theorem stopsAt_dumpMembers {members : List (String × JsonScalar)} (hne : members ≠ []) :
    StopsAt isSpace (dumpMembers members) := by
  obtain ⟨rest, hquote⟩ := dumpMembers_eq_quote hne
  rw [hquote]
  exact stopsAt_cons rfl

theorem scanMembers_dumpMembers {members : List (String × JsonScalar)} (hne : members ≠ [])
    {fuel : Nat} (hfuel : members.length ≤ fuel) :
    scanMembers fuel (dumpMembers members) = some (members, []) := by
  induction members generalizing fuel with
  | nil => exact absurd rfl hne
  | cons member members ih =>
      obtain ⟨fuel, rfl⟩ : ∃ less, fuel = less + 1 := ⟨fuel - 1, by simp at hfuel; omega⟩
      cases members with
      | nil =>
          have hlast : scanMember (dumpMember member ++ ['\x7d']) = some (member, ['\x7d']) :=
            scanMember_dumpMember member (stopsAt_cons rfl) (stopsAt_cons rfl)
          simp only [dumpMembers, scanMembers, hlast]
          rfl
      | cons next members =>
          have hfirst := @scanMember_dumpMember member (',' :: ' ' :: dumpMembers (next :: members))
            (stopsAt_cons rfl) (stopsAt_cons rfl)
          have hrest := ih (List.cons_ne_nil _ _) (Nat.le_of_succ_le_succ hfuel)
          have hspace := skipSpace_of_stopsAt (stopsAt_dumpMembers (List.cons_ne_nil next members))
          simp only [dumpMembers, scanMembers, hfirst, Option.bind_eq_bind, Option.bind_some,
            skipSpace_space, hspace, hrest]
          rfl

theorem length_le_dumpMembers (members : List (String × JsonScalar)) :
    members.length ≤ (dumpMembers members).length := by
  induction members with
  | nil => simp
  | cons member members ih =>
      cases members with
      | nil => simp [dumpMembers]
      | cons next members =>
          simp only [dumpMembers, List.length_append, List.length_cons] at ih ⊢
          omega

/-- `json.loads` inverts `json.dumps`. -/
theorem loads_dumps (object : JsonObject) : loads (dumps object) = some object := by
  have hobject := ofPairs_members object
  cases hmembers : object.members with
  | nil =>
      rw [hmembers] at hobject
      simp only [loads, dumps, hmembers, String.toList_ofList]
      rw [← hobject]
      rfl
  | cons member members =>
      have hne : object.members ≠ [] := by simp [hmembers]
      have hscan := scanMembers_dumpMembers hne (length_le_dumpMembers object.members)
      have hspace := skipSpace_of_stopsAt (stopsAt_dumpMembers hne)
      obtain ⟨rest, hquote⟩ := dumpMembers_eq_quote hne
      have hloads : loads (dumps object) =
          (scanMembers (dumpMembers object.members).length (dumpMembers object.members)).bind
            fun scanned => if skipSpace scanned.2 = [] then some (ofPairs scanned.1) else none := by
        have hbrace : skipSpace ('\x7b' :: dumpMembers object.members) =
            '\x7b' :: dumpMembers object.members := rfl
        simp only [loads, dumps, String.toList_ofList, hbrace, hspace]
        rw [hquote]
        rfl
      have hend : skipSpace [] = [] := rfl
      simp only [hloads, hscan, Option.bind_some, hend, if_true, hobject]

end Json

end StockMonitoring.Foundation
