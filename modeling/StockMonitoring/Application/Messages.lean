import StockMonitoring.Application.NotificationService
import StockMonitoring.Foundation.Numerals
import StockMonitoring.Infrastructure.Providers.Browsers

set_option autoImplicit false

/-!
# Application: the messages

`format_message` and what the senders make of it.  The text of a message says which keyword,
retailer and event it is about, and at which price: `readMessage` reads all of it back, whatever
the keyword is, as long as the retailer is one of the registry's (`readMessage_formatMessage`).
-/

namespace StockMonitoring.Application

open StockMonitoring.Foundation StockMonitoring.Domain StockMonitoring.Infrastructure.Providers

/-! ## Formatting -/

/-- `_EVENT_LABELS`. -/
def eventLabel : EventType → String
  | .stockAvailable => "back in stock"
  | .outOfStock => "out of stock"
  | .lowStock => "running low"
  | .priceChanged => "price changed"
  | .newVariant => "a new variant available"
  | .etaChanged => "a changed delivery time"
  | .storeChanged => "a changed fulfilling store"

/-- `str.title` on ASCII text; `inWord` says whether a letter has come right before. -/
def titleFrom (inWord : Bool) : List Char → List Char
  | [] => []
  | char :: rest =>
      (if inWord then char.toLower else char.toUpper) :: titleFrom char.isAlpha rest

/-- `text.title()`. -/
def title (text : String) : String := String.ofList (titleFrom false text.toList)

/-- `f"{value:.0f}"`; a negative number keeps its sign when it is rounded to zero. -/
def wholeNumber (value : Rat) : String :=
  let digits := toString (roundHalfEven value).natAbs
  if value < 0 then s!"-{digits}" else digits

/-- `price_part`. -/
def pricePart : Option Rat → String
  | none => ""
  | some price => s!" — ₹{wholeNumber price}"

/-- `format_message`. -/
def formatMessage (context : NotificationContext) : String :=
  s!"{context.keyword} on {title context.retailerSlug} is now {eventLabel context.eventType}" ++
    s!"{pricePart context.snapshot.price}."

/-! ## What the senders send -/

/-- What a sender hands over, to `post` or to an `EmailMessage`. -/
inductive Message where
  /-- a post with a JSON object -/
  | post (url : String) (json : List (String × String))
  | email (subject sender recipient content : String)
  deriving DecidableEq

/-- The text that is handed to `post` or to `set_content`. -/
def Message.text : Message → String
  | .post _ json => ((json.lookup "text").or (json.lookup "content")).getD ""
  | .email _ _ _ content => content

/-- The settings that the senders are built with, as far as their messages show them. -/
structure SenderSettings where
  telegramBotToken : String
  smtpFromAddress : String

/-- `config.get(key)`, if it is there and not empty. -/
def addressOf (key : String) (channel : NotificationChannel) : Option String :=
  (channel.config.lookup key).filter (· ≠ "")

/-- What `send` of the channel's sender hands over, if it comes that far. -/
def messageTo (settings : SenderSettings) (channel : NotificationChannel)
    (context : NotificationContext) : Option Message :=
  match channel.type with
  | .telegram => (addressOf "chat_id" channel).map fun chatId =>
      .post s!"https://api.telegram.org/bot{settings.telegramBotToken}/sendMessage"
        [("chat_id", chatId), ("text", formatMessage context)]
  | .discord => (addressOf "webhook_url" channel).map fun webhookUrl =>
      .post webhookUrl [("content", formatMessage context)]
  | .email => (addressOf "email" channel).map fun toAddress =>
      .email (subjectOf context) settings.smtpFromAddress toAddress (formatMessage context)
  | .push => none

/-- Every sender sends the text of `format_message`. -/
theorem text_messageTo {settings : SenderSettings} {channel : NotificationChannel}
    {context : NotificationContext} {message : Message}
    (hmessage : messageTo settings channel context = some message) :
    message.text = formatMessage context := by
  unfold messageTo at hmessage
  split at hmessage
  · obtain ⟨chatId, _, rfl⟩ := Option.map_eq_some_iff.mp hmessage
    rfl
  · obtain ⟨webhookUrl, _, rfl⟩ := Option.map_eq_some_iff.mp hmessage
    rfl
  · obtain ⟨toAddress, _, rfl⟩ := Option.map_eq_some_iff.mp hmessage
    rfl
  · cases hmessage

/-! ## Subjects

`EmailMessage` refuses a header of several lines, before `_send_sync` has come to its `try`. -/

theorem splitLines_ne_nil {text : List Char} (htext : text ≠ []) : splitLines text ≠ [] := by
  fun_cases splitLines text
  · exact absurd rfl htext
  · exact List.cons_ne_nil _ _
  · exact List.cons_ne_nil _ _
  · exact List.cons_ne_nil _ _
  · exact List.cons_ne_nil _ _

/-- A line that ends before the text does makes at least two. -/
theorem one_lt_length_splitLines {before after text : List Char} (htext : text = before ++ after)
    (hbefore : ∃ char ∈ before, isLineBoundary char = true) (hne : after ≠ [])
    (hafter : after.head? ≠ some '\n') : 1 < (splitLines text).length := by
  obtain ⟨boundary, hmem, hboundary⟩ := hbefore
  have hlonger : ∀ rest, splitLines rest ≠ [] → 1 < ([] :: splitLines rest).length := by
    intro rest hrest
    rw [List.length_cons]
    exact Nat.succ_lt_succ (List.length_pos_iff.mpr hrest)
  have hrest : ∀ others : List Char, splitLines (others ++ after) ≠ [] := fun others =>
    splitLines_ne_nil (List.append_ne_nil_of_right_ne_nil others hne)
  fun_induction splitLines text generalizing before with
  | case1 => exact absurd (List.append_eq_nil_iff.mp htext.symm).2 hne
  | case2 rest ih =>
      cases before with
      | nil => cases hmem
      | cons first others =>
          cases others with
          | nil =>
              have hnewline : '\n' :: rest = after := (List.cons.inj htext).2
              rw [← hnewline] at hafter
              exact absurd rfl hafter
          | cons second others =>
              rw [(List.cons.inj (List.cons.inj htext).2).2]
              exact hlonger _ (hrest others)
  | case3 char rest hends hstarts ih =>
      cases before with
      | nil => cases hmem
      | cons first others =>
          rw [(List.cons.inj htext).2]
          exact hlonger _ (hrest others)
  | case4 char rest hends hgoes hnone ih =>
      cases before with
      | nil => cases hmem
      | cons first others =>
          rw [(List.cons.inj htext).2] at hnone
          exact absurd hnone (hrest others)
  | case5 char rest hends hgoes line lines hsome ih =>
      cases before with
      | nil => cases hmem
      | cons first others =>
          have hlater : boundary ∈ others := by
            rcases List.mem_cons.mp hmem with rfl | hlater
            · rw [(List.cons.inj htext).1] at hgoes
              exact absurd hboundary hgoes
            · exact hlater
          have hlength := ih (List.cons.inj htext).2 hlater
          rw [hsome] at hlength
          exact hlength

/-- A keyword in which a line ends cannot be the subject of an email. -/
theorem setHeader_of_boundary {context : NotificationContext}
    (hkeyword : ∃ char ∈ context.keyword.toList, isLineBoundary char = true) :
    ∃ error, setHeader (subjectOf context) = .error error := by
  have hlines : 1 < (splitLines (subjectOf context).toList).length := by
    refine @one_lt_length_splitLines context.keyword.toList " update".toList _ ?_ hkeyword
      (by decide) (by decide)
    simp [subjectOf, toString, String.toList_append]
  exact ⟨_, if_pos hlines⟩

/-- No SMTP dialogue is begun for it. -/
theorem sendSync_of_boundary {context : NotificationContext}
    (hkeyword : ∃ char ∈ context.keyword.toList, isLineBoundary char = true)
    (toAddress : String) (outcome : SmtpOutcome) :
    ∃ error, EmailSender.sendSync toAddress context outcome = .error error := by
  obtain ⟨error, hheader⟩ := setHeader_of_boundary hkeyword
  unfold EmailSender.sendSync
  rw [hheader]
  exact ⟨error, rfl⟩

/-! ## Reading a message

From its end, since only the keyword is free: the point, the price if there is one, what has
happened, and the retailer. -/

/-- What a message says. -/
structure Notice where
  keyword : String
  retailerSlug : String
  eventType : EventType
  /-- in whole rupees -/
  price : Option Int
  deriving DecidableEq

/-- The notice of a context. -/
def noticeOf (context : NotificationContext) : Notice where
  keyword := context.keyword
  retailerSlug := context.retailerSlug
  eventType := context.eventType
  price := context.snapshot.price.map roundHalfEven

def eventTypes : List EventType :=
  [.stockAvailable, .outOfStock, .lowStock, .priceChanged, .newVariant, .etaChanged, .storeChanged]

/-- The slugs of the registry. -/
def registeredSlugs : List String := providerFactories.map RetailSite.slug

/-- The characters of a number. -/
def inAmount (char : Char) : Bool := char.isDigit || char == '-'

/-- The number of a text with an optional sign. -/
def amountOf : List Char → Int
  | '-' :: digits => -(Nat.ofDigitChars 10 digits 0 : Int)
  | digits => (Nat.ofDigitChars 10 digits 0 : Int)

/-- Take a text away from the end; the lists are reversed. -/
def dropEnding (ending : String) (reversed : List Char) : Option (List Char) :=
  let mark := ending.toList.reverse
  if mark.isPrefixOf reversed then some (reversed.drop mark.length) else none

/-- Take the one of some endings away that is there. -/
def dropEndings {α : Type} (endingOf : α → String) (candidates : List α) (reversed : List Char) :
    Option (α × List Char) :=
  candidates.findSome? fun candidate =>
    (dropEnding (endingOf candidate) reversed).map fun rest => (candidate, rest)

/-- The price of a message, and what comes before it. -/
def dropPrice (reversed : List Char) : Option (Option Int × List Char) :=
  match reversed.takeWhile inAmount with
  | [] => some (none, reversed)
  | last :: others =>
      (dropEnding " — ₹" (reversed.dropWhile inAmount)).map fun rest =>
        (some (amountOf (last :: others).reverse), rest)

/-- Read a message. -/
def readMessage (text : String) : Option Notice := do
  let unpointed ← dropEnding "." text.toList.reverse
  let (price, unpriced) ← dropPrice unpointed
  let (eventType, unlabelled) ← dropEndings (fun event => s!" is now {eventLabel event}") eventTypes
    unpriced
  let (slug, keyword) ← dropEndings (fun slug => s!" on {title slug}") registeredSlugs unlabelled
  return ⟨String.ofList keyword.reverse, slug, eventType, price⟩

theorem dropEnding_append (ending : String) (rest : List Char) :
    dropEnding ending (ending.toList.reverse ++ rest) = some rest := by
  unfold dropEnding
  dsimp only
  rw [if_pos (List.isPrefixOf_iff_prefix.mpr (List.prefix_append _ rest)), List.drop_left]

/-- Two texts that differ at a place which both have. -/
def Apart (first second : List Char) : Prop := ∃ pair ∈ first.zip second, pair.1 ≠ pair.2

instance (first second : List Char) : Decidable (Apart first second) :=
  inferInstanceAs (Decidable (∃ pair ∈ first.zip second, pair.1 ≠ pair.2))

theorem Apart.not_prefix {first second : List Char} (hapart : Apart first second)
    (rest : List Char) : ¬ first <+: second ++ rest := by
  induction first generalizing second with
  | nil =>
      obtain ⟨pair, hpair, _⟩ := hapart
      cases hpair
  | cons head tail ih =>
      cases second with
      | nil =>
          obtain ⟨pair, hpair, _⟩ := hapart
          cases hpair
      | cons other others =>
          intro hprefix
          obtain ⟨hhead, htail⟩ := List.cons_prefix_cons.mp hprefix
          obtain ⟨pair, hpair, hne⟩ := hapart
          rcases List.mem_cons.mp hpair with rfl | hlater
          · exact hne hhead
          · exact ih ⟨pair, hlater, hne⟩ htail

theorem dropEnding_of_apart {ending other : String}
    (hapart : Apart ending.toList.reverse other.toList.reverse) (rest : List Char) :
    dropEnding ending (other.toList.reverse ++ rest) = none := by
  unfold dropEnding
  dsimp only
  rw [if_neg]
  rw [List.isPrefixOf_iff_prefix]
  exact hapart.not_prefix rest

/-- Endings that are apart do not get in each other's way. -/
theorem dropEndings_append {α : Type} {endingOf : α → String} {candidates : List α} {chosen : α}
    (hchosen : chosen ∈ candidates)
    (hapart : ∀ other ∈ candidates, other = chosen ∨
      Apart (endingOf other).toList.reverse (endingOf chosen).toList.reverse) (rest : List Char) :
    dropEndings endingOf candidates ((endingOf chosen).toList.reverse ++ rest) =
      some (chosen, rest) := by
  unfold dropEndings
  induction candidates with
  | nil => cases hchosen
  | cons candidate candidates ih =>
      rw [List.findSome?_cons]
      rcases hapart candidate List.mem_cons_self with rfl | hother
      · rw [dropEnding_append]
        rfl
      · rw [dropEnding_of_apart hother]
        rcases List.mem_cons.mp hchosen with rfl | hlater
        · exact absurd (List.prefix_append _ []) (hother.not_prefix [])
        · exact ih hlater fun other hmem => hapart other (List.mem_cons_of_mem _ hmem)

/-! ## The price -/

theorem inAmount_toDigits {number : Nat} {char : Char} (hchar : char ∈ Nat.toDigits 10 number) :
    inAmount char = true := by
  have hdigit := Nat.isDigit_of_mem_toDigits (by decide) (by decide) hchar
  rw [inAmount, hdigit, Bool.true_or]

theorem toList_wholeNumber (value : Rat) :
    (wholeNumber value).toList =
      (if value < 0 then ['-'] else []) ++ Nat.toDigits 10 (roundHalfEven value).natAbs := by
  unfold wholeNumber
  dsimp only
  split
  · simp [toString, String.toList_append]
  · simp [toString]

theorem inAmount_wholeNumber (value : Rat) :
    ∀ char ∈ (wholeNumber value).toList, inAmount char = true := by
  intro char hchar
  rw [toList_wholeNumber] at hchar
  rcases List.mem_append.mp hchar with hsign | hdigit
  · split at hsign
    · rw [List.mem_singleton.mp hsign]
      rfl
    · cases hsign
  · exact inAmount_toDigits hdigit

/-- The number is read as it was rounded. -/
theorem amountOf_wholeNumber (value : Rat) :
    amountOf (wholeNumber value).toList = roundHalfEven value := by
  rw [toList_wholeNumber]
  split
  · rename_i hneg
    have hle : roundHalfEven value ≤ 0 := roundHalfEven_le (by exact_mod_cast le_of_lt hneg)
    rw [List.singleton_append, amountOf, Nat.ofDigitChars_ten_toDigits]
    omega
  · rename_i hnonneg
    have hle : 0 ≤ roundHalfEven value := le_roundHalfEven (by exact_mod_cast not_lt.mp hnonneg)
    obtain ⟨first, others, hdigits⟩ :=
      List.exists_cons_of_ne_nil (@Nat.toDigits_ne_nil (roundHalfEven value).natAbs 10)
    have hfirst : first ≠ '-' := by
      rintro rfl
      have hmem : '-' ∈ Nat.toDigits 10 (roundHalfEven value).natAbs :=
        hdigits ▸ List.mem_cons_self
      have hdigit := Nat.isDigit_of_mem_toDigits (by decide) (by decide) hmem
      exact absurd hdigit (by decide)
    have hamount : amountOf (first :: others) =
        (Nat.ofDigitChars 10 (first :: others) 0 : Int) := by
      unfold amountOf
      split
      · rename_i heq
        exact absurd (List.cons.inj heq).1 hfirst
      · rfl
    rw [List.nil_append, hdigits, hamount, ← hdigits, Nat.ofDigitChars_ten_toDigits]
    omega

/-- The price of a message is read, or that there is none. -/
theorem dropPrice_append (price : Option Rat) {rest : List Char}
    (hrest : StopsAt inAmount rest) :
    dropPrice ((pricePart price).toList.reverse ++ rest) =
      some (price.map roundHalfEven, rest) := by
  cases price with
  | none =>
      have hnone : rest.takeWhile inAmount = [] := by
        cases rest with
        | nil => rfl
        | cons first others => exact List.takeWhile_cons_of_neg (by simp [hrest first rfl])
      simp [dropPrice, pricePart, hnone]
  | some price =>
      have hpart : (pricePart (some price)).toList.reverse ++ rest =
          (wholeNumber price).toList.reverse ++ (" — ₹".toList.reverse ++ rest) := by
        simp [pricePart, toString, String.toList_append]
      have hstops : StopsAt inAmount (" — ₹".toList.reverse ++ rest) :=
        @stopsAt_cons Char inAmount _ '₹' (by decide)
      have hnumber : ∀ char ∈ (wholeNumber price).toList.reverse, inAmount char = true :=
        fun char hchar => inAmount_wholeNumber price char (List.mem_reverse.mp hchar)
      have hne : (wholeNumber price).toList.reverse ≠ [] := by
        rw [toList_wholeNumber]
        simp [Nat.toDigits_ne_nil]
      obtain ⟨last, others, hlast⟩ := List.exists_cons_of_ne_nil hne
      have hvalue : amountOf (last :: others).reverse = roundHalfEven price := by
        rw [← hlast, List.reverse_reverse, amountOf_wholeNumber]
      rw [dropPrice, hpart, takeWhile_append_of_stopsAt hnumber hstops,
        dropWhile_append_of_stopsAt hnumber hstops, hlast]
      dsimp only
      rw [dropEnding_append, hvalue]
      rfl

/-! ## The round trip -/

theorem eventType_mem (eventType : EventType) : eventType ∈ eventTypes := by
  cases eventType <;> decide

theorem labels_apart : ∀ chosen ∈ eventTypes, ∀ other ∈ eventTypes, other = chosen ∨
    Apart s!" is now {eventLabel other}".toList.reverse
      s!" is now {eventLabel chosen}".toList.reverse := by
  decide +kernel

theorem titles_apart : ∀ chosen ∈ registeredSlugs, ∀ other ∈ registeredSlugs, other = chosen ∨
    Apart s!" on {title other}".toList.reverse s!" on {title chosen}".toList.reverse := by
  decide +kernel

/-- No label ends like a number. -/
theorem label_stops (eventType : EventType) (rest : List Char) :
    StopsAt inAmount (s!" is now {eventLabel eventType}".toList.reverse ++ rest) := by
  have hlasts : ∀ event ∈ eventTypes,
      ((eventLabel event).toList.reverse.head?.any inAmount) = false := by decide
  have hlast := hlasts eventType (eventType_mem eventType)
  have hne : (eventLabel eventType).toList.reverse ≠ [] := by
    have hlabels : ∀ event ∈ eventTypes, (eventLabel event).toList ≠ [] := by decide
    exact List.reverse_ne_nil_iff.mpr (hlabels eventType (eventType_mem eventType))
  obtain ⟨last, others, hlabel⟩ := List.exists_cons_of_ne_nil hne
  have hends : s!" is now {eventLabel eventType}".toList.reverse ++ rest =
      last :: (others ++ (" is now ".toList.reverse ++ rest)) := by
    simp [toString, String.toList_append, hlabel]
  rw [hends]
  rw [hlabel] at hlast
  exact stopsAt_cons hlast

/-- A message about a registered retailer says what its context says, the price in whole
rupees. -/
theorem readMessage_formatMessage {context : NotificationContext}
    (hslug : context.retailerSlug ∈ registeredSlugs) :
    readMessage (formatMessage context) = some (noticeOf context) := by
  have htext : (formatMessage context).toList.reverse = ".".toList.reverse ++
      ((pricePart context.snapshot.price).toList.reverse ++
        (s!" is now {eventLabel context.eventType}".toList.reverse ++
          (s!" on {title context.retailerSlug}".toList.reverse ++
            context.keyword.toList.reverse))) := by
    simp [formatMessage, toString, String.toList_append]
  have hprice := dropPrice_append context.snapshot.price (label_stops context.eventType
    (s!" on {title context.retailerSlug}".toList.reverse ++ context.keyword.toList.reverse))
  have hlabel := dropEndings_append (eventType_mem context.eventType)
    (labels_apart _ (eventType_mem context.eventType))
    (s!" on {title context.retailerSlug}".toList.reverse ++ context.keyword.toList.reverse)
  have hretailer := dropEndings_append hslug (titles_apart _ hslug) context.keyword.toList.reverse
  rw [readMessage, htext, dropEnding_append, Option.bind_eq_bind, Option.bind_some, hprice,
    Option.bind_eq_bind, Option.bind_some]
  dsimp only
  rw [hlabel, Option.bind_eq_bind, Option.bind_some]
  dsimp only
  rw [hretailer, Option.bind_eq_bind, Option.bind_some]
  simp [noticeOf]

end StockMonitoring.Application
