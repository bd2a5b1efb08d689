import StockMonitoring.Infrastructure.Providers.Scraping

set_option autoImplicit false

/-!
# Infrastructure: the pages a provider opens

Every method that navigates opens a page; a search opens one for each result besides.  The pages
are counted over the calls of a run: a `new_page` that answers opens one, a `close` ends one.
Every awaited call but `close` may raise.
-/

namespace StockMonitoring.Infrastructure.Providers

open StockMonitoring.Foundation StockMonitoring.Domain

/-! ## Counting pages -/

/-- The pages of the methods of `Scraping`. -/
def pageLedger : Ledger pagePort ScrapeError where
  possible
    | .closePage _, reply => ∃ answer, reply = .ok answer
    | _, _ => True
  change
    | .newPage _, .ok _ => 1
    | .closePage _, .ok _ => -1
    | _, _ => 0

/-- The page of `initialize`. -/
def launchLedger : Ledger browserPort BrowsingError where
  possible
    | .closePage, reply => ∃ answer, reply = .ok answer
    | _, _ => True
  change
    | .newPage _, .ok _ => 1
    | .closePage, .ok _ => -1
    | _, _ => 0

/-! ## Reading a page -/

section Reading

variable {site : Storefront} {page : Page}

/-- Calls that neither open nor close a page. -/
def Neutral (op : PageOp) : Prop := ∀ reply, pageLedger.change op reply = 0

theorem balances_scrape {op : PageOp} (hop : Neutral op) : pageLedger.Balances (scrape op) :=
  Ledger.balances_perform fun reply _ => hop reply

theorem neutral_querySelector (selector : String) : Neutral (.querySelector page selector) :=
  fun _ => rfl

theorem balances_checkAvailabilityFromPage :
    pageLedger.Balances (checkAvailabilityFromPage site page) := by
  refine (balances_scrape (neutral_querySelector _)).bind fun outOfStock => ?_
  cases outOfStock with
  | some element => exact Ledger.balances_ret _
  | none =>
      refine (balances_scrape (neutral_querySelector _)).bind fun lowStock => ?_
      cases lowStock with
      | some element => exact Ledger.balances_ret _
      | none => exact Ledger.balances_ret _

theorem balances_textAt (selector : String) : pageLedger.Balances (textAt page selector) := by
  refine (balances_scrape (neutral_querySelector selector)).bind fun element => ?_
  cases element with
  | none => exact Ledger.balances_ret none
  | some element => exact (balances_scrape fun _ => rfl).map some

theorem balances_floatOfMatch (number : Option (List Char)) :
    pageLedger.Balances (floatOfMatch number) := by
  cases number with
  | none => exact Ledger.balances_ret none
  | some number =>
      dsimp only [floatOfMatch]
      cases float? number with
      | none => exact Ledger.balances_raise _
      | some value => exact Ledger.balances_ret _

theorem balances_extractNumber (selector : String) :
    pageLedger.Balances (extractNumber page selector) :=
  (balances_textAt selector).bind fun _ => balances_floatOfMatch _

theorem balances_discountPct (price mrp : Option Rat) :
    pageLedger.Balances (discountPct price mrp) := by
  unfold discountPct
  split
  · split
    · refine Ledger.Balances.bind ?_ fun _ => Ledger.balances_ret _
      unfold divide
      split
      · exact Ledger.balances_raise _
      · exact Ledger.balances_ret _
    · exact Ledger.balances_ret none
  · exact Ledger.balances_ret none

theorem balances_extractPrice : pageLedger.Balances (extractPrice site page) :=
  (balances_extractNumber _).bind fun _ => (balances_extractNumber _).bind fun _ =>
    (balances_discountPct _ _).bind fun _ => Ledger.balances_ret _

theorem balances_intOfMatch (digits : Option (List Char)) :
    pageLedger.Balances (intOfMatch digits) := by
  cases digits with
  | none => exact Ledger.balances_ret none
  | some digits =>
      dsimp only [intOfMatch]
      split
      · exact Ledger.balances_ret _
      · exact Ledger.balances_raise _

theorem balances_extractEta : pageLedger.Balances (extractEta site page) :=
  (balances_textAt _).bind fun _ => balances_intOfMatch _

theorem balances_extractStore : pageLedger.Balances (extractStore site page) :=
  (balances_textAt _).bind fun _ => Ledger.balances_ret _

theorem balances_extractQuantity : pageLedger.Balances (extractQuantity site page) :=
  (balances_textAt _).bind fun _ => Ledger.balances_ret _

theorem balances_extractImage : pageLedger.Balances (extractImage site page) := by
  refine (balances_scrape (neutral_querySelector _)).bind fun element => ?_
  cases element with
  | none => exact Ledger.balances_ret none
  | some element => exact balances_scrape fun _ => rfl

theorem balances_extractVariants : pageLedger.Balances (extractVariants site page) := by
  have htext : ∀ element : ElementHandle,
      pageLedger.Balances (strip <$> scrape (.innerText element)) := by
    intro element
    have hcall : pageLedger.Balances (scrape (.innerText element)) :=
      balances_scrape fun _ => rfl
    exact hcall.map strip
  exact (balances_scrape fun _ => rfl).bind fun elements => Ledger.balances_mapM htext elements

end Reading

/-! ## Navigation -/

section Navigation

variable {α : Type} {site : Storefront}

/-- The page of a method is closed however the method ends. -/
theorem balances_withPage {body : Page → Scraping α}
    (hbody : ∀ page, pageLedger.Balances (body page)) :
    pageLedger.Balances (withPage site body) := by
  refine (balances_scrape fun _ => rfl).bind fun browser => ?_
  cases browser with
  | none => exact Ledger.balances_raise _
  | some browser =>
      refine Ledger.balances_using (fun _ => rfl) (fun _ => rfl) ?_ hbody ?_
      · rintro page reply ⟨answer, rfl⟩
        exact ⟨⟨answer, rfl⟩, rfl⟩
      · intro page result answer
        cases result with
        | ok value => exact Ledger.balances_ret value
        | error error => exact Ledger.balances_raise error

theorem balances_retrying {program : Scraping α} (hprogram : pageLedger.Balances program) :
    pageLedger.Balances (retrying program) :=
  hprogram.retry (fun _ => balances_scrape fun _ => rfl) 2

theorem balances_readProduct (productUrl : String) (page : Page) :
    pageLedger.Balances (readProduct site productUrl page) :=
  (balances_scrape fun _ => rfl).bind fun _ =>
    (balances_textAt _).bind fun _ =>
      balances_checkAvailabilityFromPage.bind fun _ =>
        balances_extractPrice.bind fun _ =>
          balances_extractEta.bind fun _ =>
            balances_extractStore.bind fun _ =>
              balances_extractImage.bind fun _ =>
                balances_extractQuantity.bind fun _ =>
                  balances_extractVariants.bind fun _ =>
                    (balances_scrape fun _ => rfl).bind fun _ => Ledger.balances_ret _

theorem balances_getProduct (productUrl : String) :
    pageLedger.Balances (getProduct site productUrl) :=
  balances_retrying (balances_withPage (balances_readProduct productUrl))

theorem balances_readResults (keyword : String) (page : Page) :
    pageLedger.Balances (readResults site keyword page) := by
  have hhref : ∀ card : ElementHandle, pageLedger.Balances (scrape (.getAttribute card "href")) :=
    fun _ => balances_scrape fun _ => rfl
  have hproduct : ∀ href, pageLedger.Balances (getProduct site (resultUrl site href)) :=
    fun href => balances_getProduct (resultUrl site href)
  exact (balances_scrape fun _ => rfl).bind fun _ =>
    (balances_scrape fun _ => rfl).bind fun _ =>
      (balances_scrape fun _ => rfl).bind fun cards =>
        (Ledger.balances_mapM hhref cards).bind fun hrefs =>
          Ledger.balances_mapM hproduct (resultLinks hrefs)

theorem balances_searchProduct (keyword : String) :
    pageLedger.Balances (searchProduct site keyword) :=
  balances_retrying (balances_withPage (balances_readResults keyword))

theorem balances_checkAvailability (productUrl : String) :
    pageLedger.Balances (checkAvailability site productUrl) :=
  balances_withPage fun _ => (balances_scrape fun _ => rfl).bind fun _ =>
    balances_checkAvailabilityFromPage

end Navigation

/-! ## `initialize` -/

theorem balances_browse {op : BrowserOp} (hop : ∀ reply, launchLedger.change op reply = 0) :
    launchLedger.Balances (browse op) :=
  Ledger.balances_perform fun reply _ => hop reply

theorem balances_setLocation (site : RetailSite) (location : LocationContext) :
    launchLedger.Balances (setLocation site location) :=
  (balances_browse fun _ => rfl).bind fun _ => (balances_browse fun _ => rfl).bind fun _ =>
    balances_browse fun _ => rfl

theorem balances_passTimeout (result : Except BrowsingError Unit) :
    launchLedger.Balances (passTimeout result) := by
  unfold passTimeout
  split
  · exact Ledger.balances_ret ()
  · exact Ledger.balances_ret ()
  · exact Ledger.balances_raise _

theorem balances_visit (site : RetailSite) (location : LocationContext) (browser : Browser) :
    launchLedger.Balances (visit site location browser) := by
  have hbody : launchLedger.Balances (do
      browse (.goto site.baseUrl)
      (setLocation site location).attempt passTimeout) :=
    (balances_browse fun _ => rfl).bind fun _ =>
      (balances_setLocation site location).attempt balances_passTimeout
  refine Ledger.balances_using (fun _ => rfl) (fun _ => rfl) ?_ (fun _ => hbody) ?_
  · rintro held reply ⟨answer, rfl⟩
    exact ⟨⟨answer, rfl⟩, rfl⟩
  · intro held result answer
    cases result with
    | ok value => exact Ledger.balances_ret ()
    | error error => exact Ledger.balances_raise error

theorem balances_initializeInstance (site : RetailSite) (location : LocationContext) :
    launchLedger.Balances (initializeInstance site location) := by
  refine (balances_browse fun _ => rfl).bind fun browser => ?_
  cases browser with
  | some browser => exact balances_visit site location browser
  | none =>
      exact (balances_browse fun _ => rfl).bind fun playwright =>
        (balances_browse fun _ => rfl).bind fun _ =>
          (balances_browse fun _ => rfl).bind fun browser =>
            (balances_browse fun _ => rfl).bind fun _ => balances_visit site location browser

/-! ## Runs -/

/-- How the calls of a method end: by their number, whatever has come before. -/
abbrev PageOutcomes : Type := Nat → (op : PageOp) → Reply pagePort ScrapeError op

abbrev LaunchOutcomes : Type := Nat → (op : BrowserOp) → Reply browserPort BrowsingError op

/-- What does not depend on them: `self._browser`, and that `close` returns. -/
def certainPage (browser : Option Browser) : (op : PageOp) → Option op.Answer
  | .getBrowser _ => some browser
  | .closePage _ => some ()
  | _ => none

/-- For `initialize` besides, that an attribute can be assigned. -/
def certainLaunch (browser : Option Browser) : (op : BrowserOp) → Option op.Answer
  | .getBrowser _ => some browser
  | .setPlaywright _ _ => some ()
  | .setBrowser _ _ => some ()
  | .closePage => some ()
  | _ => none

/-- The open pages of the browser after a method, from those before it. -/
def pagesAfter {α : Type} (browser : Option Browser) (outcomes : PageOutcomes) (before : Int)
    (method : Scraping α) : Int :=
  before + pageLedger.total (Co.exec (replay (certainPage browser) outcomes) method 0).trace

/-- After `initialize`. -/
def pagesAfterLaunch (browser : Option Browser) (outcomes : LaunchOutcomes) (before : Int)
    (method : Browsing Unit) : Int :=
  before + launchLedger.total (Co.exec (replay (certainLaunch browser) outcomes) method 0).trace

theorem pagesAfter_of_balances {α : Type} {method : Scraping α}
    (hmethod : pageLedger.Balances method) (browser : Option Browser) (outcomes : PageOutcomes)
    (before : Int) : pagesAfter browser outcomes before method = before := by
  have hpossible : ∀ op index,
      pageLedger.possible op (replay (certainPage browser) outcomes op index).1 := by
    intro op index
    cases op with
    | closePage page => exact ⟨(), rfl⟩
    | _ => trivial
  rw [pagesAfter, hmethod.total_eq_zero hpossible]
  omega

theorem pagesAfterLaunch_of_balances {method : Browsing Unit}
    (hmethod : launchLedger.Balances method) (browser : Option Browser)
    (outcomes : LaunchOutcomes) (before : Int) :
    pagesAfterLaunch browser outcomes before method = before := by
  have hpossible : ∀ op index,
      launchLedger.possible op (replay (certainLaunch browser) outcomes op index).1 := by
    intro op index
    cases op with
    | closePage => exact ⟨(), rfl⟩
    | _ => trivial
  rw [pagesAfterLaunch, hmethod.total_eq_zero hpossible]
  omega

/-- If the browser is there and opens a page for it, the navigation of `health_check` returns. -/
def HealthNavigates (site : Storefront) (browser : Option Browser) (outcomes : PageOutcomes) :
    Prop :=
  ∀ opened page, browser = some opened → outcomes 1 (.newPage opened) = .ok page →
    outcomes 2 (.goto page site.baseUrl 10000) = .ok ()

section HealthCheck

variable {site : Storefront} {browser : Browser} {outcomes : PageOutcomes} {before : Int}

theorem trace_falseOnTimeout {S : Type} (handler : Handler pagePort ScrapeError S)
    (result : Except ScrapeError Bool) (state : S) :
    (Co.exec handler (falseOnTimeout result) state).trace = [] := by
  unfold falseOnTimeout
  split <;> rfl

theorem healthCheck_without_browser :
    pagesAfter none outcomes before (healthCheck site) = before := by
  simp [pagesAfter, healthCheck, scrape, Co.perform, Co.exec_call, replay, certainPage,
    Ledger.total, pageLedger]

theorem healthCheck_without_page {error : ScrapeError}
    (hpage : outcomes 1 (.newPage browser) = .error error) :
    pagesAfter (some browser) outcomes before (healthCheck site) = before := by
  simp [pagesAfter, healthCheck, reach, scrape, Co.perform, Co.attempt, Co.exec_call, replay,
    certainPage, hpage, trace_falseOnTimeout, Ledger.total, pageLedger]

theorem healthCheck_navigates {page : Page} (hpage : outcomes 1 (.newPage browser) = .ok page)
    (hgoto : outcomes 2 (.goto page site.baseUrl 10000) = .ok ()) :
    pagesAfter (some browser) outcomes before (healthCheck site) = before := by
  simp [pagesAfter, healthCheck, reach, scrape, Co.perform, Co.attempt, Co.exec_call, replay,
    certainPage, hpage, hgoto, trace_falseOnTimeout, Ledger.total, pageLedger]

/-- A navigation that raises leaves the page open. -/
theorem healthCheck_leaks {page : Page} {error : ScrapeError}
    (hpage : outcomes 1 (.newPage browser) = .ok page)
    (hgoto : outcomes 2 (.goto page site.baseUrl 10000) = .error error) :
    pagesAfter (some browser) outcomes before (healthCheck site) = before + 1 := by
  simp [pagesAfter, healthCheck, reach, scrape, Co.perform, Co.attempt, Co.exec_call, replay,
    certainPage, hpage, hgoto, trace_falseOnTimeout, Ledger.total, pageLedger]

end HealthCheck

/-- `health_check` closes its page only on the way. -/
theorem healthCheck_keeps_iff (site : Storefront) (browser : Option Browser)
    (outcomes : PageOutcomes) (before : Int) :
    pagesAfter browser outcomes before (healthCheck site) = before ↔
      HealthNavigates site browser outcomes := by
  cases browser with
  | none => exact iff_of_true healthCheck_without_browser fun _ _ hopened => nomatch hopened
  | some browser =>
      cases hpage : outcomes 1 (.newPage browser) with
      | error error =>
          refine iff_of_true (healthCheck_without_page hpage) ?_
          intro opened page hopened hnew
          cases hopened
          rw [hpage] at hnew
          cases hnew
      | ok page =>
          cases hgoto : outcomes 2 (.goto page site.baseUrl 10000) with
          | ok answer =>
              refine iff_of_true (healthCheck_navigates hpage hgoto) ?_
              intro opened other hopened hnew
              cases hopened
              rw [hpage] at hnew
              cases hnew
              exact hgoto
          | error error =>
              refine iff_of_false ?_ fun hnavigates => ?_
              · rw [healthCheck_leaks hpage hgoto]
                omega
              · rw [hnavigates browser page rfl hpage] at hgoto
                cases hgoto

/-- Every method but `health_check` leaves as many pages open as it has found, however its calls
end; `health_check` does unless its navigation raises. -/
theorem pages_kept_iff (site : Storefront) (browser : Option Browser) (before : Int) :
    (∀ location outcomes, pagesAfterLaunch browser outcomes before
      (initializeInstance site.toRetailSite location) = before) ∧
    (∀ keyword outcomes,
      pagesAfter browser outcomes before (searchProduct site keyword) = before) ∧
    (∀ productUrl outcomes,
      pagesAfter browser outcomes before (getProduct site productUrl) = before) ∧
    (∀ productUrl outcomes,
      pagesAfter browser outcomes before (checkAvailability site productUrl) = before) ∧
    ∀ outcomes, pagesAfter browser outcomes before (healthCheck site) = before ↔
      HealthNavigates site browser outcomes := by
  refine ⟨?_, ?_, ?_, ?_, ?_⟩
  · intro location outcomes
    have hmethod := balances_initializeInstance site.toRetailSite location
    exact pagesAfterLaunch_of_balances hmethod browser outcomes before
  · intro keyword outcomes
    exact pagesAfter_of_balances (balances_searchProduct keyword) browser outcomes before
  · intro productUrl outcomes
    exact pagesAfter_of_balances (balances_getProduct productUrl) browser outcomes before
  · intro productUrl outcomes
    exact pagesAfter_of_balances (balances_checkAvailability productUrl) browser outcomes before
  · intro outcomes
    exact healthCheck_keeps_iff site browser outcomes before

/-- The browser of Blinkit opens page 7, and its navigation times out. -/
def slowShop : PageOutcomes := fun _ op =>
  match op with
  | .newPage _ => .ok 7
  | _ => .error (.browsing .timeout)

/-- A health check that times out answers `False` and leaves its page open. -/
theorem timed_out_health_check_leaks :
    (Co.exec (replay (certainPage (some ⟨3, 2⟩)) slowShop)
        (healthCheck blinkitStorefront) 0).result = .ok false ∧
      pagesAfter (some ⟨3, 2⟩) slowShop 0 (healthCheck blinkitStorefront) = 1 :=
  ⟨rfl, rfl⟩

end StockMonitoring.Infrastructure.Providers
