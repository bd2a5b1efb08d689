import StockMonitoring.Infrastructure.Providers.Scraping
import Mathlib.Algebra.Order.Field.Basic
import Mathlib.Tactic.Positivity

set_option autoImplicit false

/-!
# Infrastructure: the prices on a page

`extract_price` on a page that is loaded: it always returns, and what it returns for an amount
that is written out is that amount.  Numbers are exact here.
-/

namespace StockMonitoring.Infrastructure.Providers

open StockMonitoring.Foundation StockMonitoring.Domain

/-! ## A page that is loaded -/

/-- A page that shows these texts: of each selector the text of its first element, if it has one.
The handles are the texts that were asked for.  Other calls, which reading a number does not make,
are not answered. -/
def showing (texts : String → Option String) : Handler pagePort ScrapeError (List String)
  | .querySelector _ selector, handles =>
      match texts selector with
      | none => (.ok none, handles)
      | some text => (.ok (some handles.length), handles ++ [text])
  | .innerText element, handles => (.ok (handles[element]?.getD ""), handles)
  | _, handles => (.error (.browsing .timeout), handles)

/-! ## The number in a text -/

/-- What `_extract_number` makes of the text of an element. -/
def numberIn (text : Option String) : Option Rat :=
  text.bind fun text => (searchNumber (withoutCommas text)).bind float?

/-- What `extract_price` makes of two numbers. -/
def discountOf (price mrp : Option Rat) : Option Rat := do
  let price ← price
  let mrp ← mrp
  if mrp = 0 then none else some (roundOne ((1 - price / mrp) * 100))

/-- Nothing is divided by zero. -/
theorem discountPct_eq (price mrp : Option Rat) :
    discountPct price mrp = pure (discountOf price mrp) := by
  cases price with
  | none => rfl
  | some price =>
      cases mrp with
      | none => rfl
      | some mrp =>
          by_cases hzero : mrp = 0
          · simp [discountPct, discountOf, hzero]
          · simp [discountPct, discountOf, hzero, divide]

theorem isAmountChar_of_isDecimal {char : Char} (hchar : isDecimal char = true) :
    isAmountChar char = true := by
  rw [isAmountChar, hchar, Bool.true_or]

theorem isDecimal_of_isAmountChar {char : Char} (hchar : isAmountChar char = true)
    (hcomma : char ≠ ',') : isDecimal char = true := by
  simpa [isAmountChar, hcomma] using hchar

theorem not_mem_withoutCommas (text : String) : ',' ∉ withoutCommas text := by
  simp [withoutCommas]

theorem stopsAt_isDecimal {rest : List Char} (hrest : StopsAt isAmountChar rest) :
    StopsAt isDecimal rest := by
  intro first hfirst
  have hnot := hrest first hfirst
  rw [isAmountChar, Bool.or_eq_false_iff] at hnot
  exact hnot.1

theorem pointAndDigits_eq_nil {rest : List Char} (hrest : StopsAt isAmountChar rest)
    (hpoint : '.' ∉ rest.head?) : pointAndDigits rest = [] := by
  cases rest with
  | nil => rfl
  | cons first rest =>
      have hfirst := stopsAt_isDecimal hrest first rfl
      unfold pointAndDigits
      split
      · rename_i heq
        exact absurd (congrArg some (List.cons.inj heq).1) hpoint
      · exact List.takeWhile_cons_of_neg (by simp [hfirst])

/-- Behind the digits of an amount there is nothing more of it, or a point and digits. -/
theorem pointAndDigits_cases {rest : List Char} (hrest : StopsAt isAmountChar rest) :
    pointAndDigits rest = [] ∨ ∃ fraction, (∀ digit ∈ fraction, isDecimal digit = true) ∧
      pointAndDigits rest = '.' :: fraction := by
  by_cases hpoint : '.' ∈ rest.head?
  · obtain ⟨others, rfl⟩ := List.head?_eq_some_iff.mp hpoint
    exact Or.inr ⟨_, fun digit hdigit => List.mem_takeWhile_imp hdigit, rfl⟩
  · exact Or.inl (pointAndDigits_eq_nil hrest hpoint)

/-- `float` accepts whatever the pattern matches in a text without commas. -/
theorem float?_of_searchNumber {text number : List Char} (hcommas : ',' ∉ text)
    (hmatch : searchNumber text = some number) : ∃ value, float? number = some value := by
  have hstart := List.dropWhile_suffix (fun char => !isAmountChar char) (l := text)
  have hfirst := stopsAt_dropWhile (fun char => !isAmountChar char) text
  unfold searchNumber at hmatch
  dsimp only at hmatch
  generalize text.dropWhile (fun char => !isAmountChar char) = start at hmatch hstart hfirst
  split at hmatch
  · cases hmatch
  · rename_i hne
    cases hmatch
    have hwhole : ∀ digit ∈ start.takeWhile isAmountChar, isDecimal digit = true := by
      intro digit hdigit
      have hmem : digit ∈ text := hstart.subset ((List.takeWhile_sublist _).subset hdigit)
      refine isDecimal_of_isAmountChar (List.mem_takeWhile_imp hdigit) ?_
      rintro rfl
      exact hcommas hmem
    have hdigits : start.takeWhile isAmountChar ≠ [] := by
      obtain ⟨first, rest, rfl⟩ := List.exists_cons_of_ne_nil hne
      have hamount : isAmountChar first = true := by simpa using hfirst first rfl
      simp [hamount]
    rcases pointAndDigits_cases (stopsAt_dropWhile isAmountChar start) with
      hnone | ⟨fraction, hfraction, hsome⟩
    · rw [hnone, List.append_nil]
      exact ⟨_, float?_whole hdigits hwhole⟩
    · rw [hsome]
      exact ⟨_, float?_point hdigits hwhole hfraction⟩

section Showing

variable {texts : String → Option String} {page : Page} {selector : String}

theorem exec_textAt (handles : List String) :
    (Co.exec (showing texts) (textAt page selector) handles).result = .ok (texts selector) := by
  cases htext : texts selector with
  | none => simp [textAt, scrape, Co.perform, Co.exec_call, showing, htext, innerTextOf]
  | some text =>
      simp [textAt, scrape, Co.perform, Co.exec_call, showing, htext, innerTextOf,
        map_eq_pure_bind]

/-- The number is converted, or there is none. -/
theorem floatOfMatch_eq (text : Option String) :
    floatOfMatch (text.bind fun text => searchNumber (withoutCommas text)) =
      pure (numberIn text) := by
  cases text with
  | none => rfl
  | some text =>
      simp only [numberIn, Option.bind_some]
      cases hmatch : searchNumber (withoutCommas text) with
      | none => rfl
      | some number =>
          obtain ⟨value, hvalue⟩ := float?_of_searchNumber (not_mem_withoutCommas text) hmatch
          simp only [floatOfMatch, hvalue, Option.bind_some]

theorem exec_extractNumber (handles : List String) :
    (Co.exec (showing texts) (extractNumber page selector) handles).result =
      .ok (numberIn (texts selector)) := by
  rw [extractNumber, Co.exec_bind, exec_textAt handles]
  dsimp only
  rw [floatOfMatch_eq]
  rfl

theorem exec_extractPrice (site : Storefront) (handles : List String) :
    (Co.exec (showing texts) (extractPrice site page) handles).result =
      .ok (numberIn (texts site.price), numberIn (texts site.mrp),
        discountOf (numberIn (texts site.price)) (numberIn (texts site.mrp))) := by
  rw [extractPrice, Co.exec_bind, exec_extractNumber handles]
  dsimp only
  rw [Co.exec_bind, exec_extractNumber]
  dsimp only
  rw [discountPct_eq]
  rfl

end Showing

/-! ## Amounts -/

/-- An amount as a page writes it: after a text without digits, a digit, then digits and commas,
then a point and digits or not, then a text that does not go on with the number. -/
structure WrittenAmount where
  start : List Char
  whole : List Char
  fraction : Option (List Char)
  rest : List Char
  start_free : ∀ char ∈ start, isDecimal char = false
  whole_chars : ∀ char ∈ whole, isDecimal char = true ∨ char = ','
  whole_begins : ∃ first ∈ whole.head?, isDecimal first = true
  fraction_digits : ∀ digits ∈ fraction, ∀ digit ∈ digits, isDecimal digit = true
  rest_apart : ∀ first ∈ rest.head?, isDecimal first = false ∧ first ≠ ',' ∧ first ≠ '.'

namespace WrittenAmount

/-- The text of the element. -/
def text (written : WrittenAmount) : String :=
  String.ofList (written.start ++ (written.whole ++
    ((written.fraction.map ('.' :: ·)).getD [] ++ written.rest)))

/-- The number that digits denote. -/
def digitsValue (digits : List Char) : Nat :=
  Nat.ofDigits 10 (digits.map fun digit => (decimal? digit).getD 0).reverse

/-- The digits before the point. -/
def digits (written : WrittenAmount) : List Char := written.whole.filter (· ≠ ',')

/-- The amount: its digits before the point, and those after it. -/
def amount (written : WrittenAmount) : Rat :=
  digitsValue written.digits +
    (digitsValue (written.fraction.getD []) : Rat) / 10 ^ (written.fraction.getD []).length

variable {written : WrittenAmount}

theorem digits_decimal {digit : Char} (hdigit : digit ∈ written.digits) :
    isDecimal digit = true := by
  obtain ⟨hmem, hcomma⟩ := List.mem_filter.mp hdigit
  have hne : digit ≠ ',' := by simpa using hcomma
  exact (written.whole_chars digit hmem).resolve_right hne

theorem digits_ne_nil : written.digits ≠ [] := by
  obtain ⟨first, hfirst, hdecimal⟩ := written.whole_begins
  have hcomma : first ≠ ',' := by
    rintro rfl
    revert hdecimal
    decide
  have hmem : first ∈ written.digits :=
    List.mem_filter.mpr ⟨List.mem_of_mem_head? hfirst, by simp [hcomma]⟩
  exact List.ne_nil_of_mem hmem

/-- The amount without the commas. -/
theorem withoutCommas_text :
    withoutCommas written.text = written.start.filter (· ≠ ',') ++ (written.digits ++
      ((written.fraction.map ('.' :: ·)).getD [] ++ written.rest.filter (· ≠ ','))) := by
  have hfraction : ((written.fraction.map ('.' :: ·)).getD []).filter (· ≠ ',') =
      (written.fraction.map ('.' :: ·)).getD [] := by
    rw [List.filter_eq_self]
    intro char hchar
    refine decide_eq_true ?_
    rintro rfl
    cases hsome : written.fraction with
    | none => simp [hsome] at hchar
    | some fraction =>
        rw [hsome, Option.map_some, Option.getD_some, List.mem_cons] at hchar
        rcases hchar with hpoint | hmem
        · revert hpoint
          decide
        · have hdecimal := written.fraction_digits fraction hsome ',' hmem
          revert hdecimal
          decide
  rw [withoutCommas, text, String.toList_ofList, List.filter_append, List.filter_append,
    List.filter_append, hfraction]
  rfl

/-- What comes after the amount does not go on with it, the commas taken out. -/
theorem rest_stops : StopsAt isAmountChar (written.rest.filter (· ≠ ',')) ∧
    '.' ∉ (written.rest.filter (· ≠ ',')).head? := by
  cases hrest : written.rest with
  | nil => simp [StopsAt]
  | cons first others =>
      obtain ⟨hdecimal, hcomma, hpoint⟩ := written.rest_apart first (by rw [hrest]; rfl)
      rw [List.filter_cons_of_pos (by simp [hcomma])]
      refine ⟨stopsAt_cons ?_, ?_⟩
      · simp [isAmountChar, hdecimal, hcomma]
      · simpa using hpoint

/-- The pattern matches the amount. -/
theorem searchNumber_text : searchNumber (withoutCommas written.text) =
    some (written.digits ++ (written.fraction.map ('.' :: ·)).getD []) := by
  have hstart : ∀ char ∈ written.start.filter (· ≠ ','), (!isAmountChar char) = true := by
    intro char hchar
    obtain ⟨hmem, hcomma⟩ := List.mem_filter.mp hchar
    have hne : char ≠ ',' := by simpa using hcomma
    simp [isAmountChar, written.start_free char hmem, hne]
  have hdigits : ∀ digit ∈ written.digits, isAmountChar digit = true := fun digit hdigit =>
    isAmountChar_of_isDecimal (digits_decimal hdigit)
  obtain ⟨first, others, hfirst⟩ := List.exists_cons_of_ne_nil (@digits_ne_nil written)
  have hbegins : ∀ text, StopsAt (fun char => !isAmountChar char) (written.digits ++ text) := by
    intro text
    rw [hfirst, List.cons_append]
    refine stopsAt_cons ?_
    simp [hdigits first (by simp [hfirst])]
  obtain ⟨hrest, hnopoint⟩ := @rest_stops written
  have hpoint : isAmountChar '.' = false := by decide
  have hends : StopsAt isAmountChar
      ((written.fraction.map ('.' :: ·)).getD [] ++ written.rest.filter (· ≠ ',')) := by
    cases written.fraction with
    | none => exact hrest
    | some fraction => exact stopsAt_cons hpoint
  have htail : pointAndDigits ((written.fraction.map ('.' :: ·)).getD [] ++
      written.rest.filter (· ≠ ',')) = (written.fraction.map ('.' :: ·)).getD [] := by
    cases hfraction : written.fraction with
    | none => exact pointAndDigits_eq_nil hrest hnopoint
    | some fraction =>
        have hmore := written.fraction_digits fraction hfraction
        exact congrArg ('.' :: ·) (takeWhile_append_of_stopsAt hmore (stopsAt_isDecimal hrest))
  rw [withoutCommas_text, searchNumber, dropWhile_append_of_stopsAt hstart (hbegins _),
    if_neg (by simp [digits_ne_nil]),
    takeWhile_append_of_stopsAt hdigits hends, dropWhile_append_of_stopsAt hdigits hends, htail]

theorem numeral_eq_digitsValue (digits : List Char) : numeral digits = digitsValue digits :=
  numeral_eq_ofDigits digits

/-- The number that is extracted is the amount. -/
theorem numberIn_text (written : WrittenAmount) :
    numberIn (some written.text) = some written.amount := by
  rw [numberIn, Option.bind_some, searchNumber_text, Option.bind_some, amount]
  cases hfraction : written.fraction with
  | none =>
      have hvalue := float?_whole (@digits_ne_nil written) fun _ => digits_decimal
      rw [Option.map_none, Option.getD_none, List.append_nil, hvalue, numeral_eq_digitsValue]
      simp [digitsValue]
  | some fraction =>
      have hdigits := written.fraction_digits fraction hfraction
      have hvalue := float?_point (@digits_ne_nil written) (fun _ => digits_decimal) hdigits
      have hpow : (10 : Rat) ^ fraction.length ≠ 0 := by positivity
      rw [Option.map_some, Option.getD_some, hvalue, numeral_append, numeral_eq_digitsValue,
        numeral_eq_digitsValue, Option.getD_some]
      push_cast
      rw [add_div, mul_div_cancel_right₀ _ hpow]

end WrittenAmount

/-! ## Discounts -/

theorem discountOf_eq_none_iff {price mrp : Option Rat} :
    discountOf price mrp = none ↔ price = none ∨ mrp = none ∨ mrp = some 0 := by
  cases price with
  | none => simp [discountOf]
  | some price =>
      cases mrp with
      | none => simp [discountOf]
      | some mrp => simp [discountOf]

theorem roundOne_bounds {value : Rat} (hlow : 0 ≤ value) (hhigh : value ≤ 100) :
    0 ≤ roundOne value ∧ roundOne value ≤ 100 := by
  have hzero : 0 ≤ roundHalfEven (value * 10) :=
    le_roundHalfEven (by push_cast; linarith)
  have hthousand : roundHalfEven (value * 10) ≤ 1000 :=
    roundHalfEven_le (by push_cast; linarith)
  have hzero' : (0 : Rat) ≤ roundHalfEven (value * 10) := by exact_mod_cast hzero
  have hthousand' : (roundHalfEven (value * 10) : Rat) ≤ 1000 := by exact_mod_cast hthousand
  unfold roundOne
  constructor <;> linarith

theorem discountOf_bounds {price mrp discount : Rat}
    (hdiscount : discountOf (some price) (some mrp) = some discount) (hprice : 0 ≤ price)
    (hmrp : price ≤ mrp) : 0 ≤ discount ∧ discount ≤ 100 := by
  have hne : mrp ≠ 0 := by
    rintro rfl
    simp [discountOf] at hdiscount
  have hpos : 0 < mrp := lt_of_le_of_ne (le_trans hprice hmrp) (Ne.symm hne)
  have hratio : 0 ≤ price / mrp ∧ price / mrp ≤ 1 :=
    ⟨div_nonneg hprice (le_of_lt hpos), (div_le_one hpos).mpr hmrp⟩
  have hvalue : discount = roundOne ((1 - price / mrp) * 100) := by
    simpa [discountOf, hne, eq_comm] using hdiscount
  rw [hvalue]
  exact roundOne_bounds (by linarith) (by linarith)

/-- `extract_price` returns whatever the page shows; amounts that are written out are extracted
exactly, and the discount is a percentage where there is a price and a MRP to compare it to. -/
theorem price_extraction_is_exact (site : Storefront) (page : Page)
    (texts : String → Option String) (handles : List String) :
    ∃ price mrp discount,
      (Co.exec (showing texts) (extractPrice site page) handles).result =
        .ok (price, mrp, discount) ∧
      (∀ written : WrittenAmount, texts site.price = some written.text →
        price = some written.amount) ∧
      (∀ written : WrittenAmount, texts site.mrp = some written.text →
        mrp = some written.amount) ∧
      (discount = none ↔ price = none ∨ mrp = none ∨ mrp = some 0) ∧
      ∀ paid full off, price = some paid → mrp = some full → discount = some off →
        0 ≤ paid → paid ≤ full → 0 ≤ off ∧ off ≤ 100 := by
  refine ⟨_, _, _, exec_extractPrice site handles, ?_, ?_, discountOf_eq_none_iff, ?_⟩
  · intro written htext
    rw [htext, written.numberIn_text]
  · intro written htext
    rw [htext, written.numberIn_text]
  · intro paid full off hpaid hfull hoff hnonneg hle
    rw [hpaid, hfull] at hoff
    exact discountOf_bounds hoff hnonneg hle

/-- Indian grouping behind `Rs.`, as a page may write it. -/
example : numberIn (some "Rs. 1,29,999.50/-") = some (259999 / 2) := by decide +kernel

/-- The prices of the test's page. -/
example : discountOf (some 29) (some 32) = some (94 / 10) := by decide +kernel

end StockMonitoring.Infrastructure.Providers
