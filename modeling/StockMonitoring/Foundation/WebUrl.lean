import StockMonitoring.Foundation.Digits
import StockMonitoring.Foundation.Utf8
import Mathlib.Data.List.DropRight

set_option autoImplicit false

/-!
# Foundation: URLs as a browser reads them

The WHATWG URL parser on absolute `http` and `https` URLs, and the parser of
`application/x-www-form-urlencoded` queries.  Host and path are kept as they are written: what
the standard makes of them does not touch the query.

`decodeText` is what a query parser makes of a text that was put into a query as it is.  It is
never longer than the text, and as long only if the text has no percent escape
(`length_decodeText_le`).
-/

namespace StockMonitoring.Foundation.WebUrl

open Utf8

/-! ## Percent-encoding -/

/-- A hexadecimal digit in upper case. -/
def hexUpper (value : Nat) : Char := (Nat.digitChar value).toUpper

/-- `percent-encode` a byte. -/
def percentEncodeByte (byte : Nat) : List Char :=
  ['%', hexUpper (byte / 16), hexUpper (byte % 16)]

/-- The C0 control percent-encode set. -/
def controlSet (char : Char) : Bool := char < ' ' || '~' < char

/-- The special-query percent-encode set. -/
def specialQuerySet (char : Char) : Bool :=
  controlSet char || [' ', '\x22', '#', '<', '>', '\x27'].contains char

/-- The fragment percent-encode set. -/
def fragmentSet (char : Char) : Bool :=
  controlSet char || [' ', '\x22', '<', '>', '\x60'].contains char

def percentEncodeChar (set : Char → Bool) (char : Char) : List Char :=
  if set char then (utf8 char).flatMap percentEncodeByte else [char]

/-- `UTF-8 percent-encode`. -/
def percentEncode (set : Char → Bool) (text : List Char) : List Char :=
  text.flatMap (percentEncodeChar set)

/-- The value of two bytes that are hexadecimal digits. -/
def hexByte? (high low : Nat) : Option Nat := do
  let high ← hexValue? (Char.ofNat high)
  let low ← hexValue? (Char.ofNat low)
  return high * 16 + low

/-- `percent-decode`; fewer than three bytes hold no escape. -/
def percentDecode : List Nat → List Nat
  | byte :: high :: low :: rest =>
      match if byte = 37 then hexByte? high low else none with
      | some value => value :: percentDecode rest
      | none => byte :: percentDecode (high :: low :: rest)
  | bytes => bytes

/-! ## The parsers -/

/-- C0 control or space. -/
def isControlOrSpace (char : Char) : Bool := char ≤ ' '

/-- ASCII tab or newline. -/
def isTabOrNewline (char : Char) : Bool := char = '\t' || char = '\n' || char = '\r'

/-- What the parser removes from its input. -/
def cleanInput (input : List Char) : List Char :=
  ((input.dropWhile isControlOrSpace).rdropWhile isControlOrSpace).filter fun char =>
    !isTabOrNewline char

/-- A URL with its parts as they are written, its query and fragment percent-encoded. -/
structure Url where
  scheme : List Char
  authority : List Char
  path : List Char
  query : Option (List Char)
  fragment : Option (List Char)
  deriving DecidableEq

/-- What ends the authority and begins the path. -/
def isSlash (char : Char) : Bool := char = '/' || char = '\x5c'

/-- What ends the path. -/
def endsPath (char : Char) : Bool := char = '?' || char = '#'

/-- Scheme, authority and path of a special URL. -/
def parseHead (head : List Char) : Option (List Char × List Char × List Char) :=
  let scheme := (head.takeWhile (· ≠ ':')).map Char.toLower
  let rest := ((head.dropWhile (· ≠ ':')).drop 1).dropWhile isSlash
  let authority := rest.takeWhile fun char => !isSlash char
  if (scheme = ['h', 't', 't', 'p'] ∨ scheme = ['h', 't', 't', 'p', 's']) ∧ authority ≠ [] then
    some (scheme, authority, rest.dropWhile fun char => !isSlash char)
  else none

/-- What follows a delimiter, if the text begins with it. -/
def after? (delimiter : Char) : List Char → Option (List Char)
  | [] => none
  | char :: rest => if char = delimiter then some rest else none

/-- The basic URL parser, without a base URL. -/
def parseUrl (input : List Char) : Option Url :=
  let text := cleanInput input
  let tail := text.dropWhile fun char => !endsPath char
  (parseHead (text.takeWhile fun char => !endsPath char)).map fun head =>
    { scheme := head.1
      authority := head.2.1
      path := head.2.2
      query := (after? '?' tail).map fun rest =>
        percentEncode specialQuerySet (rest.takeWhile (· ≠ '#'))
      fragment := (after? '#' (tail.dropWhile (· ≠ '#'))).map (percentEncode fragmentSet) }

/-- Scheme, authority and path as they were written. -/
def joinHead (head : List Char × List Char × List Char) : List Char :=
  head.1 ++ [':', '/', '/'] ++ head.2.1 ++ head.2.2

/-- The URL serializer. -/
def Url.serialize (url : Url) : List Char :=
  joinHead (url.scheme, url.authority, url.path) ++
    ((url.query.map ('?' :: ·)).getD [] ++ (url.fragment.map ('#' :: ·)).getD [])

/-- `+` stands for a space. -/
def plusToSpace (byte : Nat) : Nat := if byte = 43 then 32 else byte

/-- A name or value of a query. -/
def decodeComponent (bytes : List Nat) : String :=
  String.ofList (decode (percentDecode (bytes.map plusToSpace)))

/-- A name and a value, split at the first `=`. -/
def parseParameter (bytes : List Nat) : String × String :=
  (decodeComponent (bytes.takeWhile (· ≠ 61)),
    decodeComponent ((bytes.dropWhile (· ≠ 61)).drop 1))

/-- The `application/x-www-form-urlencoded` parser. -/
def parseParameters (query : List Char) : List (String × String) :=
  (((query.flatMap utf8).splitOn 38).filter (· ≠ [])).map parseParameter

/-! ## A text in a query -/

/-- The bytes of a character that was put into a query. -/
def queryBytes (char : Char) : List Nat := (percentEncodeChar specialQuerySet char).flatMap utf8

/-- The bytes that a query parser decodes a text in a query to. -/
def decodedBytes (text : List Char) : List Nat :=
  percentDecode ((text.flatMap queryBytes).map plusToSpace)

/-- What a query parser makes of a text in a query. -/
def decodeText (text : List Char) : List Char := decode (decodedBytes text)

/-- The text begins with a percent escape. -/
def escapeAhead : List Char → Bool
  | '%' :: high :: low :: _ => (hexValue? high).isSome && (hexValue? low).isSome
  | _ => false

/-- The text has a percent escape. -/
def hasEscape : List Char → Bool
  | [] => false
  | char :: rest => escapeAhead (char :: rest) || hasEscape rest

/-- A byte as a percent escape. -/
def escapeBytes (byte : Nat) : List Nat :=
  [37, (hexUpper (byte / 16)).toNat, (hexUpper (byte % 16)).toNat]

theorem hexUpper_spec : ∀ value < 16,
    hexValue? (hexUpper value) = some value ∧ (hexUpper value).toNat < 0x80 ∧
      (hexUpper value).toNat ≠ 43 := by
  decide

theorem utf8_of_ascii {char : Char} (hchar : char.toNat < 0x80) : utf8 char = [char.toNat] :=
  if_pos hchar

theorem utf8_lt {char : Char} {byte : Nat} (hbyte : byte ∈ utf8 char) : byte < 256 := by
  have hvalid : char.toNat < 0x110000 := by
    rcases char.valid with hlow | ⟨_, hhigh⟩
    · exact Nat.lt_trans hlow (by decide)
    · exact hhigh
  unfold utf8 at hbyte
  dsimp only at hbyte
  split_ifs at hbyte <;> simp only [List.mem_cons, List.not_mem_nil, or_false] at hbyte <;> omega

theorem flatMap_utf8_percentEncodeByte {byte : Nat} (hbyte : byte < 256) :
    (percentEncodeByte byte).flatMap utf8 = escapeBytes byte := by
  have hhigh := (hexUpper_spec (byte / 16) (by omega)).2.1
  have hlow := (hexUpper_spec (byte % 16) (by omega)).2.1
  simp only [percentEncodeByte, List.flatMap_cons, List.flatMap_nil, utf8_of_ascii hhigh,
    utf8_of_ascii hlow]
  rfl

theorem queryBytes_of_set {char : Char} (hset : specialQuerySet char = true) :
    queryBytes char = (utf8 char).flatMap escapeBytes := by
  rw [queryBytes, percentEncodeChar, if_pos hset, List.flatMap_assoc]
  exact List.flatMap_congr fun byte hbyte => flatMap_utf8_percentEncodeByte (utf8_lt hbyte)

/-- What is not encoded is ASCII. -/
theorem lt_of_not_set {char : Char} (hset : specialQuerySet char = false) :
    char.toNat < 0x80 := by
  simp only [specialQuerySet, controlSet, Bool.or_eq_false_iff, decide_eq_false_iff_not] at hset
  have hle : char ≤ '~' := Char.not_lt.mp hset.1.2
  exact Nat.lt_of_le_of_lt hle (by decide)

theorem queryBytes_of_not_set {char : Char} (hset : specialQuerySet char = false) :
    queryBytes char = [char.toNat] := by
  rw [queryBytes, percentEncodeChar, if_neg (by simp [hset]), List.flatMap_singleton,
    utf8_of_ascii (lt_of_not_set hset)]

/-! ## Percent-decoding it -/

theorem percentDecode_of_none {byte : Nat} {bytes : List Nat}
    (hnone : byte = 37 → ∀ high low rest, bytes = high :: low :: rest → hexByte? high low = none) :
    percentDecode (byte :: bytes) = byte :: percentDecode bytes := by
  match bytes with
  | [] => rfl
  | [_] => rfl
  | high :: low :: rest =>
      have hhead : (if byte = 37 then hexByte? high low else none) = none := by
        split
        · rename_i hpercent
          exact hnone hpercent high low rest rfl
        · rfl
      rw [percentDecode, hhead]

theorem percentDecode_escape {high low value : Nat} (hvalue : hexByte? high low = some value)
    (bytes : List Nat) :
    percentDecode (37 :: high :: low :: bytes) = value :: percentDecode bytes := by
  rw [percentDecode, if_pos rfl, hvalue]

theorem hexByte?_hexUpper {byte : Nat} (hbyte : byte < 256) :
    hexByte? (hexUpper (byte / 16)).toNat (hexUpper (byte % 16)).toNat = some byte := by
  have hhigh := (hexUpper_spec (byte / 16) (by omega)).1
  have hlow := (hexUpper_spec (byte % 16) (by omega)).1
  have hsum : byte / 16 * 16 + byte % 16 = byte := by omega
  simp only [hexByte?, Char.ofNat_toNat, hhigh, hlow, Option.bind_eq_bind, Option.bind_some, hsum]
  rfl

theorem map_plusToSpace_escapeBytes {byte : Nat} (hbyte : byte < 256) :
    (escapeBytes byte).map plusToSpace = escapeBytes byte := by
  have hhigh := (hexUpper_spec (byte / 16) (by omega)).2.2
  have hlow := (hexUpper_spec (byte % 16) (by omega)).2.2
  simp [escapeBytes, plusToSpace, hhigh, hlow]

/-- Escapes are decoded to their bytes. -/
theorem percentDecode_escapeBytes {bytes : List Nat} (hbytes : ∀ byte ∈ bytes, byte < 256)
    (rest : List Nat) :
    percentDecode ((bytes.flatMap escapeBytes).map plusToSpace ++ rest) =
      bytes ++ percentDecode rest := by
  induction bytes with
  | nil => rfl
  | cons byte bytes ih =>
      have hbyte := hbytes byte List.mem_cons_self
      rw [List.flatMap_cons, List.map_append, List.append_assoc, map_plusToSpace_escapeBytes hbyte]
      simp only [escapeBytes, List.cons_append, List.nil_append]
      rw [percentDecode_escape (hexByte?_hexUpper hbyte),
        ih fun other hother => hbytes other (List.mem_cons_of_mem _ hother)]

/-! ## Character by character -/

/-- What a query parser reads for a character that is not part of an escape. -/
def plusChar (char : Char) : Char := if char = '+' then ' ' else char

theorem decodedBytes_cons (char : Char) (rest : List Char) :
    decodedBytes (char :: rest) =
      percentDecode ((queryBytes char).map plusToSpace ++
        (rest.flatMap queryBytes).map plusToSpace) := by
  rw [decodedBytes, List.flatMap_cons, List.map_append]

theorem plusToSpace_of_not_set {char : Char} (hset : specialQuerySet char = false) :
    plusToSpace char.toNat = (plusChar char).toNat := by
  have hplus : char.toNat = 43 ↔ char = '+' := by
    constructor
    · intro hcode
      rw [← Char.ofNat_toNat char, hcode]
    · rintro rfl
      rfl
  unfold plusToSpace plusChar
  by_cases hchar : char = '+'
  · rw [if_pos (hplus.mpr hchar), if_pos hchar]
    rfl
  · rw [if_neg (fun hcode => hchar (hplus.mp hcode)), if_neg hchar]

theorem hexValue?_plusChar (char : Char) : hexValue? (plusChar char) = hexValue? char := by
  unfold plusChar
  split
  · rename_i hplus
    rw [hplus]
    rfl
  · rfl

/-- The bytes of a text begin with a percent sign or with its first character. -/
theorem bytes_cons (first : Char) (rest : List Char) :
    (∃ tail, ((first :: rest).flatMap queryBytes).map plusToSpace = 37 :: tail) ∨
      (specialQuerySet first = false ∧ ((first :: rest).flatMap queryBytes).map plusToSpace =
        (plusChar first).toNat :: (rest.flatMap queryBytes).map plusToSpace) := by
  rw [List.flatMap_cons, List.map_append]
  cases hset : specialQuerySet first with
  | true =>
      obtain ⟨byte, others, hutf8, _⟩ := utf8_eq_cons first
      rw [queryBytes_of_set hset, hutf8]
      exact Or.inl ⟨_, rfl⟩
  | false =>
      rw [queryBytes_of_not_set hset, List.map_singleton, plusToSpace_of_not_set hset]
      exact Or.inr ⟨rfl, rfl⟩

/-- The bytes of a text that has no escape at its beginning have none either. -/
theorem hexByte?_of_not_escapeAhead {rest : List Char}
    (hnot : escapeAhead ('%' :: rest) = false) {high low : Nat} {later : List Nat}
    (hbytes : (rest.flatMap queryBytes).map plusToSpace = high :: low :: later) :
    hexByte? high low = none := by
  have hpercent : hexValue? (Char.ofNat 37) = none := by decide
  cases rest with
  | nil => cases hbytes
  | cons first rest =>
      rcases bytes_cons first rest with ⟨tail, hfirst⟩ | ⟨_, hfirst⟩
      · rw [hfirst] at hbytes
        cases hbytes
        simp [hexByte?, hpercent]
      · rw [hfirst] at hbytes
        cases rest with
        | nil => cases hbytes
        | cons second rest =>
            rcases bytes_cons second rest with ⟨tail, hsecond⟩ | ⟨_, hsecond⟩
            · rw [hsecond] at hbytes
              cases hbytes
              simp [hexByte?, hpercent]
            · rw [hsecond] at hbytes
              cases hbytes
              simp only [hexByte?, Char.ofNat_toNat, hexValue?_plusChar]
              simp only [escapeAhead, Bool.and_eq_false_iff, Option.isSome_eq_false_iff,
                Option.isNone_iff_eq_none] at hnot
              rcases hnot with hhigh | hlow
              · simp [hhigh]
              · simp [hlow]

/-- A character that does not begin an escape is read on its own. -/
theorem decodedBytes_of_not_escapeAhead {char : Char} {rest : List Char}
    (hnot : escapeAhead (char :: rest) = false) :
    decodedBytes (char :: rest) = utf8 (plusChar char) ++ decodedBytes rest := by
  rw [decodedBytes_cons]
  cases hset : specialQuerySet char with
  | true =>
      have hplus : plusChar char = char := by
        refine if_neg fun hchar => ?_
        rw [hchar] at hset
        revert hset
        decide
      rw [queryBytes_of_set hset, percentDecode_escapeBytes fun _ => utf8_lt, hplus]
      rfl
  | false =>
      have hcode := plusToSpace_of_not_set hset
      have hascii : (plusChar char).toNat < 0x80 := by
        unfold plusChar
        split
        · decide
        · exact lt_of_not_set hset
      rw [queryBytes_of_not_set hset, List.map_singleton, List.singleton_append, hcode,
        utf8_of_ascii hascii, List.singleton_append, percentDecode_of_none]
      · rfl
      · intro hpercent high low later hbytes
        have hchar : char = '%' := by
          have hplain : plusChar char = '%' := by
            rw [← Char.ofNat_toNat (plusChar char), hpercent]
          unfold plusChar at hplain
          split at hplain
          · cases hplain
          · exact hplain
        rw [hchar] at hnot
        exact hexByte?_of_not_escapeAhead hnot hbytes

theorem lt_of_digit {digit : Char} (hdigit : (hexValue? digit).isSome = true) :
    digit.toNat < 0x80 := by
  have hlt : ∀ last : Char, last.toNat < 0x80 → digit ≤ last → digit.toNat < 0x80 :=
    fun last hlast hle => Nat.lt_of_le_of_lt hle hlast
  unfold hexValue? at hdigit
  split at hdigit
  · rename_i hrange
    exact hlt '9' (by decide) hrange.2
  · split at hdigit
    · rename_i hrange
      exact hlt 'f' (by decide) hrange.2
    · split at hdigit
      · rename_i hrange
        exact hlt 'F' (by decide) hrange.2
      · cases hdigit

/-- A hexadecimal digit is put into a query as it is. -/
theorem digit_in_query {digit : Char} (hdigit : (hexValue? digit).isSome = true) :
    specialQuerySet digit = false ∧ plusChar digit = digit := by
  have hascii : ∀ code < 0x80, (hexValue? (Char.ofNat code)).isSome = true →
      specialQuerySet (Char.ofNat code) = false ∧
        plusChar (Char.ofNat code) = Char.ofNat code := by
    decide
  have hcode := hascii digit.toNat (lt_of_digit hdigit)
  rw [Char.ofNat_toNat] at hcode
  exact hcode hdigit

/-- An escape is read as one byte. -/
theorem decodedBytes_of_escapeAhead {text : List Char} (hescape : escapeAhead text = true) :
    ∃ high low rest value, text = '%' :: high :: low :: rest ∧
      decodedBytes text = value :: decodedBytes rest := by
  unfold escapeAhead at hescape
  split at hescape
  · rename_i high low rest
    rw [Bool.and_eq_true] at hescape
    obtain ⟨hhighSet, hhighPlus⟩ := digit_in_query hescape.1
    obtain ⟨hlowSet, hlowPlus⟩ := digit_in_query hescape.2
    obtain ⟨highValue, hhigh⟩ := Option.isSome_iff_exists.mp hescape.1
    obtain ⟨lowValue, hlow⟩ := Option.isSome_iff_exists.mp hescape.2
    have hvalue : hexByte? high.toNat low.toNat = some (highValue * 16 + lowValue) := by
      simp [hexByte?, Char.ofNat_toNat, hhigh, hlow]
    have hpercent : specialQuerySet '%' = false := by decide
    refine ⟨high, low, rest, highValue * 16 + lowValue, rfl, ?_⟩
    rw [decodedBytes]
    simp only [List.flatMap_cons, queryBytes_of_not_set hpercent, queryBytes_of_not_set hhighSet,
      queryBytes_of_not_set hlowSet, List.singleton_append, List.map_cons,
      plusToSpace_of_not_set hhighSet, plusToSpace_of_not_set hlowSet, hhighPlus, hlowPlus]
    exact percentDecode_escape hvalue _
  · cases hescape

/-- What is read is no longer than the text, and shorter if it has an escape. -/
theorem length_decodeFrom_le (text : List Char) (pending : Option Pending) :
    (decodeFrom pending (decodedBytes text)).length + (if hasEscape text then 1 else 0) ≤
      text.length + (flush pending).length := by
  induction hlength : text.length using Nat.strongRecOn generalizing text pending with
  | ind length ih =>
      cases hescape : escapeAhead text with
      | true =>
          obtain ⟨high, low, rest, value, rfl, hbytes⟩ := decodedBytes_of_escapeAhead hescape
          have hrest := ih rest.length (by simp at hlength; omega) rest (step pending value).2 rfl
          have hstep := length_step pending value
          rw [hbytes, decodeFrom, List.length_append]
          simp only [List.length_cons] at hlength
          split <;> split at hrest <;> omega
      | false =>
          cases text with
          | nil =>
              have hlen : decodedBytes [] = [] := rfl
              rw [hlen]
              simp [decodeFrom, hasEscape]
          | cons char rest =>
              have hrest := ih rest.length (by simp at hlength; omega) rest none rfl
              rw [decodedBytes_of_not_escapeAhead hescape, decodeFrom_utf8, List.length_append,
                List.length_cons, hasEscape, hescape, Bool.false_or]
              simp only [flush, List.length_nil, List.length_cons] at hrest hlength
              omega

/-- A text without escapes is read as it is, but for the plus signs. -/
theorem decodeText_of_no_escape {text : List Char} (hnone : hasEscape text = false) :
    decodeText text = text.map plusChar := by
  induction text with
  | nil => rfl
  | cons char rest ih =>
      rw [hasEscape, Bool.or_eq_false_iff] at hnone
      rw [decodeText, decodedBytes_of_not_escapeAhead hnone.1, decode, decodeFrom_utf8]
      rw [decodeText, decode] at ih
      rw [ih hnone.2]
      rfl

/-- A text is read back exactly if it has neither escapes nor plus signs; what is read is never
longer. -/
theorem length_decodeText_le (text : List Char) : (decodeText text).length ≤ text.length := by
  have hle := length_decodeFrom_le text none
  simp only [flush, List.length_nil] at hle
  exact Nat.le_of_add_right_le hle

theorem decodeText_eq_self_iff {text : List Char} :
    decodeText text = text ↔ hasEscape text = false ∧ '+' ∉ text := by
  constructor
  · intro hself
    have hescape : hasEscape text = false := by
      have hle := length_decodeFrom_le text none
      rw [← decode, ← decodeText, hself] at hle
      by_contra hsome
      rw [Bool.not_eq_false] at hsome
      simp only [hsome, flush, if_true, List.length_nil] at hle
      omega
    refine ⟨hescape, fun hplus => ?_⟩
    rw [decodeText_of_no_escape hescape] at hself
    have hmem : '+' ∈ text.map plusChar := by
      rw [hself]
      exact hplus
    obtain ⟨char, _, hchar⟩ := List.mem_map.mp hmem
    unfold plusChar at hchar
    split at hchar
    · cases hchar
    · rename_i hne
      exact hne hchar
  · rintro ⟨hescape, hplus⟩
    rw [decodeText_of_no_escape hescape]
    refine (List.map_congr_left fun char hchar => ?_).trans (List.map_id text)
    refine if_neg fun hsame => hplus ?_
    rw [← hsame]
    exact hchar

/-! ## A text at the end of a URL -/

/-- What the parser keeps of a text at the end of its input. -/
def cleanEnd (text : List Char) : List Char :=
  (text.rdropWhile isControlOrSpace).filter fun char => !isTabOrNewline char

theorem not_isTabOrNewline {char : Char} (hchar : isControlOrSpace char = false) :
    isTabOrNewline char = false := by
  by_contra htab
  simp only [isTabOrNewline, Bool.not_eq_false, Bool.or_eq_true, decide_eq_true_eq] at htab
  rcases htab with (rfl | rfl) | rfl <;> cases hchar

theorem cleanInput_append {start : List Char} (hne : start ≠ [])
    (hstart : ∀ char ∈ start, isControlOrSpace char = false) (text : List Char) :
    cleanInput (start ++ text) = start ++ cleanEnd text := by
  have hleft : (start ++ text).dropWhile isControlOrSpace = start ++ text := by
    obtain ⟨first, rest, rfl⟩ := List.exists_cons_of_ne_nil hne
    rw [List.cons_append, List.dropWhile_cons_of_neg (by simp [hstart first])]
  have hright : (start ++ text).rdropWhile isControlOrSpace =
      start ++ text.rdropWhile isControlOrSpace := by
    have hself : start.reverse.dropWhile isControlOrSpace = start.reverse := by
      cases hreverse : start.reverse with
      | nil => rfl
      | cons last rest =>
          have hlast : last ∈ start := List.mem_reverse.mp (hreverse ▸ List.mem_cons_self)
          exact List.dropWhile_cons_of_neg (by simp [hstart last hlast])
    rw [List.rdropWhile, List.reverse_append, List.dropWhile_append, hself, List.rdropWhile]
    split
    · rename_i hempty
      rw [List.isEmpty_iff] at hempty
      rw [hempty, List.reverse_reverse, List.reverse_nil, List.append_nil]
    · rw [List.reverse_append, List.reverse_reverse]
  have hkept : start.filter (fun char => !isTabOrNewline char) = start :=
    List.filter_eq_self.mpr fun char hchar => by
      simp [not_isTabOrNewline (hstart char hchar)]
  rw [cleanInput, hleft, hright, List.filter_append, hkept, cleanEnd]

theorem cleanEnd_sublist (text : List Char) : List.Sublist (cleanEnd text) text :=
  List.filter_sublist.trans (List.rdropWhile_prefix isControlOrSpace text).sublist

/-- A text is kept whole if it ends with a visible character and has no tab or newline. -/
theorem cleanEnd_eq_self_iff {text : List Char} :
    cleanEnd text = text ↔
      (∀ last ∈ text.getLast?, isControlOrSpace last = false) ∧
        ∀ char ∈ text, isTabOrNewline char = false := by
  have htrimmed : text.rdropWhile isControlOrSpace = text ↔
      ∀ last ∈ text.getLast?, isControlOrSpace last = false := by
    rw [List.rdropWhile_eq_self_iff]
    constructor
    · intro hlast last hmem
      obtain ⟨hne, hget⟩ := List.mem_getLast?_eq_getLast hmem
      have hnot := hlast hne
      rw [← hget] at hnot
      simpa using hnot
    · intro hlast hne
      simp [hlast _ (List.getLast?_eq_some_getLast hne)]
  constructor
  · intro hself
    have hlength : (text.rdropWhile isControlOrSpace).length = text.length := by
      have hle := (List.rdropWhile_prefix isControlOrSpace text).length_le
      have hge : (cleanEnd text).length ≤ (text.rdropWhile isControlOrSpace).length :=
        List.length_filter_le _ _
      rw [hself] at hge
      omega
    have hwhole : text.rdropWhile isControlOrSpace = text :=
      (List.rdropWhile_prefix isControlOrSpace text).eq_of_length hlength
    refine ⟨htrimmed.mp hwhole, ?_⟩
    rw [cleanEnd, hwhole, List.filter_eq_self] at hself
    intro char hchar
    simpa using hself char hchar
  · rintro ⟨hlast, htab⟩
    rw [cleanEnd, htrimmed.mpr hlast, List.filter_eq_self]
    intro char hchar
    simp [htab char hchar]

/-- A URL with a query: the head, and the texts up to the fragment and after it. -/
theorem parseUrl_of_clean {input head tail : List Char}
    (hclean : cleanInput input = head ++ '?' :: tail)
    (hhead : ∀ char ∈ head, endsPath char = false) :
    parseUrl input = (parseHead head).map fun parts =>
      { scheme := parts.1
        authority := parts.2.1
        path := parts.2.2
        query := some (percentEncode specialQuerySet (tail.takeWhile (· ≠ '#')))
        fragment := (after? '#' (tail.dropWhile (· ≠ '#'))).map (percentEncode fragmentSet) } := by
  have htaken : ∀ char ∈ head, (!endsPath char) = true := fun char hchar => by
    simp [hhead char hchar]
  have hstop : StopsAt (fun char => !endsPath char) ('?' :: tail) := stopsAt_cons rfl
  simp only [parseUrl, hclean, takeWhile_append_of_stopsAt htaken hstop,
    dropWhile_append_of_stopsAt htaken hstop]
  rfl

/-! ## A parameter of the query -/

theorem flatMap_utf8_percentEncode (text : List Char) :
    (percentEncode specialQuerySet text).flatMap utf8 = text.flatMap queryBytes := by
  rw [percentEncode, List.flatMap_assoc]
  rfl

/-- A delimiter of queries is the byte of no other character. -/
theorem mem_queryBytes_iff {delimiter char : Char} (hset : specialQuerySet delimiter = false)
    (hdigit : hexValue? delimiter = none) (hpercent : delimiter ≠ '%') :
    delimiter.toNat ∈ queryBytes char ↔ char = delimiter := by
  have hcode : ∀ other : Char, delimiter.toNat = other.toNat → delimiter = other := by
    intro other hsame
    rw [← Char.ofNat_toNat delimiter, hsame, Char.ofNat_toNat]
  constructor
  · intro hmem
    cases hchar : specialQuerySet char with
    | false =>
        rw [queryBytes_of_not_set hchar, List.mem_singleton] at hmem
        exact (hcode char hmem).symm
    | true =>
        rw [queryBytes_of_set hchar, List.mem_flatMap] at hmem
        obtain ⟨byte, hbyte, hmem⟩ := hmem
        have hsmall := utf8_lt hbyte
        have hnone : ∀ value < 16, delimiter.toNat ≠ (hexUpper value).toNat := by
          intro value hvalue hsame
          rw [hcode _ hsame, (hexUpper_spec value hvalue).1] at hdigit
          cases hdigit
        simp only [escapeBytes, List.mem_cons, List.not_mem_nil, or_false] at hmem
        rcases hmem with hfirst | hhigh | hlow
        · exact absurd (hcode '%' hfirst) hpercent
        · exact absurd hhigh (hnone _ (by omega))
        · exact absurd hlow (hnone _ (by omega))
  · rintro rfl
    rw [queryBytes_of_not_set hset]
    exact List.mem_singleton_self _

theorem not_mem_bytes {delimiter : Char} (hset : specialQuerySet delimiter = false)
    (hdigit : hexValue? delimiter = none) (hpercent : delimiter ≠ '%') {text : List Char}
    (hnot : delimiter ∉ text) : delimiter.toNat ∉ text.flatMap queryBytes := by
  intro hmem
  obtain ⟨char, hchar, hbyte⟩ := List.mem_flatMap.mp hmem
  rw [mem_queryBytes_iff hset hdigit hpercent] at hbyte
  exact hnot (hbyte ▸ hchar)

theorem not_mem_ampersand {text : List Char} (hnot : '&' ∉ text) :
    38 ∉ text.flatMap queryBytes :=
  @not_mem_bytes '&' (by decide) (by decide) (by decide) _ hnot

/-- The bytes of a name, an equals sign and a value are split there. -/
theorem parseParameter_eq {name : List Char} (hname : '=' ∉ name) (value : List Char) :
    parseParameter ((name ++ '=' :: value).flatMap queryBytes) =
      (String.ofList (decodeText name), String.ofList (decodeText value)) := by
  have hequals : queryBytes '=' = [61] := by decide
  have hnot : 61 ∉ name.flatMap queryBytes :=
    @not_mem_bytes '=' (by decide) (by decide) (by decide) _ hname
  have htaken : ∀ byte ∈ name.flatMap queryBytes, decide (byte ≠ 61) = true := by
    intro byte hbyte
    exact decide_eq_true fun hsame => hnot (hsame ▸ hbyte)
  have hstop : StopsAt (fun byte => decide (byte ≠ 61)) (61 :: value.flatMap queryBytes) :=
    stopsAt_cons rfl
  rw [List.flatMap_append, List.flatMap_cons, hequals, List.singleton_append, parseParameter,
    takeWhile_append_of_stopsAt htaken hstop, dropWhile_append_of_stopsAt htaken hstop]
  rfl

section Named

variable {name : List Char}

/-- A part with an equals sign is not empty. -/
theorem filter_bytes_named (name value : List Char) (others : List (List Nat)) :
    ((name ++ '=' :: value).flatMap queryBytes :: others).filter (· ≠ []) =
      (name ++ '=' :: value).flatMap queryBytes :: others.filter (· ≠ []) := by
  have hequals : queryBytes '=' = [61] := by decide
  have hne : (name ++ '=' :: value).flatMap queryBytes ≠ [] := by simp [hequals]
  exact List.filter_cons_of_pos (decide_eq_true hne)

/-- A query with one name and equals sign, and no ampersand, is one parameter. -/
theorem parseParameters_only (hequals : '=' ∉ name) (hampersand : '&' ∉ name) {value : List Char}
    (hvalue : '&' ∉ value) :
    parseParameters (percentEncode specialQuerySet (name ++ '=' :: value)) =
      [(String.ofList (decodeText name), String.ofList (decodeText value))] := by
  have hnot : 38 ∉ (name ++ '=' :: value).flatMap queryBytes := not_mem_ampersand (by
    simp [hampersand, hvalue])
  rw [parseParameters, flatMap_utf8_percentEncode, List.splitOn_eq_singleton hnot,
    filter_bytes_named, List.filter_nil, List.map_singleton, parseParameter_eq hequals]

/-- The value of the first parameter ends at the first ampersand. -/
theorem parseParameters_first (hequals : '=' ∉ name) (hampersand : '&' ∉ name)
    {value : List Char} (hvalue : '&' ∉ value) (rest : List Char) :
    ∃ more, parseParameters (percentEncode specialQuerySet
        (name ++ '=' :: (value ++ '&' :: rest))) =
      (String.ofList (decodeText name), String.ofList (decodeText value)) :: more := by
  have hamp : queryBytes '&' = [38] := by decide
  have hnot : 38 ∉ (name ++ '=' :: value).flatMap queryBytes := not_mem_ampersand (by
    simp [hampersand, hvalue])
  have hsplit : (name ++ '=' :: (value ++ '&' :: rest)).flatMap queryBytes =
      (name ++ '=' :: value).flatMap queryBytes ++ 38 :: rest.flatMap queryBytes := by
    simp [hamp]
  refine ⟨(((rest.flatMap queryBytes).splitOn 38).filter (· ≠ [])).map parseParameter, ?_⟩
  rw [parseParameters, flatMap_utf8_percentEncode, hsplit,
    List.splitOn_append_cons_self_of_not_mem hnot,
    filter_bytes_named, List.map_cons, parseParameter_eq hequals]

end Named

/-! ## A URL that ends with a text in its query -/

/-- A URL up to the value of its only parameter: scheme, authority and path, then the name. -/
structure QueryFrame (head name : List Char) : Prop where
  visible : ∀ char ∈ head ++ '?' :: (name ++ ['=']), isControlOrSpace char = false
  path : ∀ char ∈ head, endsPath char = false
  parses : (parseHead head).isSome = true
  delimiters : '=' ∉ name ∧ '&' ∉ name ∧ '#' ∉ name
  decodes : decodeText name = name

/-- A text that goes through a query unchanged: no delimiter of queries, nothing that stands for
another character, nothing that the parser removes. -/
structure QuerySafe (text : List Char) : Prop where
  delimiters : '&' ∉ text ∧ '#' ∉ text
  plus : '+' ∉ text
  escapes : hasEscape text = false
  newlines : ∀ char ∈ text, isTabOrNewline char = false
  visible : ∀ last ∈ text.getLast?, isControlOrSpace last = false

theorem querySafe_iff {text : List Char} :
    QuerySafe text ↔ ('&' ∉ text ∧ '#' ∉ text) ∧ '+' ∉ text ∧ hasEscape text = false ∧
      text.any isTabOrNewline = false ∧ text.getLast?.any isControlOrSpace = false := by
  rw [List.any_eq_false, Option.any_eq_false]
  simp only [Bool.not_eq_true]
  constructor
  · rintro ⟨delimiters, plus, escapes, newlines, visible⟩
    exact ⟨delimiters, plus, escapes, newlines, visible⟩
  · rintro ⟨delimiters, plus, escapes, newlines, visible⟩
    exact ⟨delimiters, plus, escapes, newlines, visible⟩

instance (text : List Char) : Decidable (QuerySafe text) :=
  decidable_of_iff' _ querySafe_iff

/-- The URL that reads back as one parameter with this value, and no fragment. -/
def ReadsAs (input name value : List Char) : Prop :=
  ∃ url, parseUrl input = some url ∧ url.fragment = none ∧
    url.query.map parseParameters = some [(String.ofList name, String.ofList value)]

namespace QueryFrame

variable {head name : List Char}

theorem cleanInput_eq (frame : QueryFrame head name) (value : List Char) :
    cleanInput (head ++ '?' :: (name ++ '=' :: value)) =
      head ++ '?' :: (name ++ '=' :: cleanEnd value) := by
  have happend : ∀ text : List Char, head ++ '?' :: (name ++ '=' :: text) =
      (head ++ '?' :: (name ++ ['='])) ++ text := by
    intro text
    simp
  have hne : head ++ '?' :: (name ++ ['=']) ≠ [] := by simp
  rw [happend value, cleanInput_append hne frame.visible, ← happend]

/-- The query is parsed up to the first number sign, and what follows it is the fragment. -/
theorem parseUrl_eq (frame : QueryFrame head name)
    {parts : List Char × List Char × List Char} (hparts : parseHead head = some parts)
    (value : List Char) :
    parseUrl (head ++ '?' :: (name ++ '=' :: value)) = some
      { scheme := parts.1
        authority := parts.2.1
        path := parts.2.2
        query := some (percentEncode specialQuerySet
          (name ++ '=' :: (cleanEnd value).takeWhile (· ≠ '#')))
        fragment := (after? '#' ((cleanEnd value).dropWhile (· ≠ '#'))).map
          (percentEncode fragmentSet) } := by
  have hname : ∀ char ∈ name ++ ['='], decide (char ≠ '#') = true := by
    intro char hchar
    refine decide_eq_true fun hsame => ?_
    rw [hsame, List.mem_append, List.mem_singleton] at hchar
    rcases hchar with hmem | hequals
    · exact frame.delimiters.2.2 hmem
    · revert hequals
      decide
  have hjoin : name ++ '=' :: cleanEnd value = (name ++ ['=']) ++ cleanEnd value := by simp
  rw [parseUrl_of_clean (frame.cleanInput_eq value) frame.path, hparts, hjoin,
    List.takeWhile_append_of_pos hname, List.dropWhile_append_of_pos hname,
    List.append_assoc, List.singleton_append]
  rfl

theorem after?_dropWhile_eq_none {delimiter : Char} {text : List Char} :
    after? delimiter (text.dropWhile (· ≠ delimiter)) = none ↔ delimiter ∉ text := by
  induction text with
  | nil => simp [after?]
  | cons first rest ih =>
      by_cases hfirst : first = delimiter
      · simp [hfirst, after?]
      · rw [List.dropWhile_cons_of_pos (by simp [hfirst]), ih]
        simp [Ne.symm hfirst]

/-- A value reads back exactly if it goes through a query unchanged. -/
theorem readsAs_iff (frame : QueryFrame head name) (value : List Char) :
    ReadsAs (head ++ '?' :: (name ++ '=' :: value)) name value ↔ QuerySafe value := by
  obtain ⟨parts, hparts⟩ := Option.isSome_iff_exists.mp frame.parses
  have hparse := frame.parseUrl_eq hparts value
  have htaken : '#' ∉ cleanEnd value →
      (cleanEnd value).takeWhile (· ≠ '#') = cleanEnd value := fun hnot =>
    List.takeWhile_eq_self_iff.mpr fun char hchar =>
      decide_eq_true fun hsame => hnot (hsame ▸ hchar)
  have hlength := (cleanEnd_sublist value).length_le
  constructor
  · rintro ⟨url, hurl, hfragment, hquery⟩
    rw [hparse] at hurl
    cases hurl
    have hhash : '#' ∉ cleanEnd value :=
      after?_dropWhile_eq_none.mp (Option.map_eq_none_iff.mp hfragment)
    rw [htaken hhash, Option.map_some, Option.some.injEq] at hquery
    by_cases hampersand : '&' ∈ cleanEnd value
    · -- The value is cut at the ampersand, and decoding makes nothing longer.
      obtain ⟨before, after, hsplit, hbefore⟩ := List.eq_append_cons_of_mem hampersand
      obtain ⟨more, hfirst⟩ :=
        parseParameters_first frame.delimiters.1 frame.delimiters.2.1 hbefore after
      rw [hsplit, hfirst, List.cons.injEq, Prod.mk.injEq, String.ofList_inj,
        String.ofList_inj] at hquery
      have hle := length_decodeText_le before
      rw [hquery.1.2] at hle
      rw [hsplit, List.length_append, List.length_cons] at hlength
      omega
    · rw [parseParameters_only frame.delimiters.1 frame.delimiters.2.1 hampersand,
        List.cons.injEq, Prod.mk.injEq, String.ofList_inj, String.ofList_inj] at hquery
      have hvalue : decodeText (cleanEnd value) = value := hquery.1.2
      have hwhole : cleanEnd value = value := by
        refine (cleanEnd_sublist value).eq_of_length_le ?_
        have hle := length_decodeText_le (cleanEnd value)
        rw [hvalue] at hle
        exact hle
      rw [hwhole] at hhash hampersand hvalue
      obtain ⟨hescapes, hplus⟩ := decodeText_eq_self_iff.mp hvalue
      obtain ⟨hlast, hnewlines⟩ := cleanEnd_eq_self_iff.mp hwhole
      exact ⟨⟨hampersand, hhash⟩, hplus, hescapes, hnewlines, hlast⟩
  · intro hsafe
    have hwhole : cleanEnd value = value :=
      cleanEnd_eq_self_iff.mpr ⟨hsafe.visible, hsafe.newlines⟩
    have hdecoded : decodeText value = value :=
      decodeText_eq_self_iff.mpr ⟨hsafe.escapes, hsafe.plus⟩
    refine ⟨_, hparse, ?_, ?_⟩
    · rw [hwhole, Option.map_eq_none_iff]
      exact after?_dropWhile_eq_none.mpr hsafe.delimiters.2
    · rw [hwhole] at htaken ⊢
      rw [htaken hsafe.delimiters.2, Option.map_some,
        parseParameters_only frame.delimiters.1 frame.delimiters.2.1 hsafe.delimiters.1,
        hdecoded, frame.decodes]

end QueryFrame

end StockMonitoring.Foundation.WebUrl
