import StockMonitoring.Foundation.Surroundings
import StockMonitoring.Infrastructure.Providers.Prices

set_option autoImplicit false

/-!
# Infrastructure: what a search says of the shop

A shop whose pages stay as they are while they are read.  A search of it may meet any number of
calls that raise, and tries again, a product at a time and as a whole.  If it returns, each of its
results describes the page that one of the links leads to.
-/

namespace StockMonitoring.Infrastructure.Providers

open StockMonitoring.Foundation StockMonitoring.Domain

/-! ## The shop -/

/-- What the methods ask of an element. -/
structure Element where
  text : String
  valueOf : String → Option String

/-- A shop. -/
structure Shop where
  /-- the elements of a selector on the page of a URL -/
  elements : (url selector : String) → List Element
  /-- what a handle is one of -/
  element : ElementHandle → Element

/-- The URLs that the open pages show; that of a page whose navigation has failed is unknown. -/
abbrev Locations : Type := Page → Option String

/-- The replies of the shop; `raises` says whether an awaited call may raise. -/
def Shop.answers (shop : Shop) (raises : Prop) :
    (op : PageOp) → Reply pagePort ScrapeError op → Locations → Prop
  | .getBrowser _, reply, _ => ∃ browser, reply = .ok (some browser)
  | .querySelector page selector, .ok found, location => ∀ url, location page = some url →
      found.map shop.element = (shop.elements url selector).head?
  | .querySelectorAll page selector, .ok found, location => ∀ url, location page = some url →
      found.map shop.element = shop.elements url selector
  | .getAttribute element name, .ok value, _ => value = (shop.element element).valueOf name
  | .innerText element, .ok text, _ => text = (shop.element element).text
  | _, .ok _, _ => True
  | _, .error _, _ => raises

/-- Only a navigation changes what a page shows. -/
def located : (op : PageOp) → Reply pagePort ScrapeError op → Locations → Locations
  | .goto page url _, .ok _, location => Function.update location page (some url)
  | .goto page _ _, .error _, location => Function.update location page none
  | _, _, location => location

/-- The shop, as the surroundings of a method. -/
def Shop.around (shop : Shop) (raises : Prop) : Surroundings pagePort ScrapeError Locations where
  answers := shop.answers raises
  next := located

/-! ## What its pages say -/

section Pages

variable (shop : Shop) (site : Storefront) (url : String)

/-- The text of the first element of a selector. -/
def Shop.textAt (selector : String) : Option String :=
  (shop.elements url selector).head?.map Element.text

/-- The stock that a page shows. -/
def Shop.availability : Availability :=
  if shop.elements url site.outOfStockBadge ≠ [] then .outOfStock
  else if shop.elements url site.lowStockBadge ≠ [] then .lowStock
  else .available

/-- The digits of its ETA. -/
def Shop.etaDigits : Option (List Char) :=
  (shop.textAt url site.eta).bind fun text => searchDigits text.toList

/-- Python's `int` refuses them. -/
def Shop.EtaTooLong : Prop := ∃ digits, shop.etaDigits site url = some digits ∧ 4300 < digits.length

/-- The product of a page. -/
def Shop.product (scrapedAt : Datetime) : ProviderProductResult where
  retailerSlug := site.slug
  keyword := ((shop.textAt url site.productName).map strip).getD ""
  productName := ((shop.textAt url site.productName).map strip).getD ""
  availability := shop.availability site url
  price := numberIn (shop.textAt url site.price)
  mrp := numberIn (shop.textAt url site.mrp)
  discountPct := discountOf (numberIn (shop.textAt url site.price))
    (numberIn (shop.textAt url site.mrp))
  etaMinutes := (shop.etaDigits site url).map fun digits => (numeral digits : Int)
  storeName := (shop.textAt url site.store).map strip
  imageUrl := (shop.elements url site.image).head?.bind fun element => element.valueOf "src"
  quantityLabel := (shop.textAt url site.quantity).map strip
  variants := (shop.elements url site.variants).map fun element => strip element.text
  productUrl := some url
  scrapedAt := scrapedAt

/-- The links of the search page. -/
def Shop.links (keyword : String) : List String :=
  resultLinks ((shop.elements (searchUrl site keyword) site.searchResultCard).map fun element =>
    element.valueOf "href")

end Pages

/-! ## Reading a page -/

section Reading

variable {shop : Shop} {raises excused : Prop} {site : Storefront} {page : Page} {url : String}
  {location : Locations}

/-- The page still shows the URL, and the value is the one that is there. -/
def Read {α : Type} (page : Page) (url : String) (expected : α) : α → Locations → Prop :=
  fun value location => location page = some url ∧ value = expected

/-- A program that reads, and what is done with the value. -/
theorem ensures_read_bind {α β : Type} {program : Scraping α} {next : α → Scraping β}
    {expected : α} {post : β → Locations → Prop}
    (hprogram : (shop.around raises).Ensures excused program (Read page url expected) location)
    (hnext : ∀ reached : Locations, reached page = some url →
      (shop.around raises).Ensures excused (next expected) post reached) :
    (shop.around raises).Ensures excused (program >>= next) post location := by
  refine hprogram.bind fun value reached hread => ?_
  obtain ⟨hreached, rfl⟩ := hread
  exact hnext reached hreached

theorem ensures_read_pure {α : Type} {value : α} (hpage : location page = some url) :
    (shop.around raises).Ensures excused (pure value) (Read page url value) location :=
  Surroundings.ensures_ret ⟨hpage, rfl⟩

/-- A list of elements is read one after another. -/
theorem ensures_readAll {α : Type} {read : ElementHandle → Scraping α} {value : ElementHandle → α}
    (elements : List ElementHandle)
    (hread : ∀ element (reached : Locations), reached page = some url →
      (shop.around raises).Ensures excused (read element) (Read page url (value element)) reached)
    (hpage : location page = some url) :
    (shop.around raises).Ensures excused (elements.mapM read)
      (Read page url (elements.map value)) location :=
  (Surroundings.ensures_mapM elements (fun element _ => hread element) hpage).mono
    fun _ _ hall => ⟨hall.1, eq_map_of_forall₂ hall.2⟩

variable (hraises : raises → excused)
include hraises

theorem ensures_innerText (hpage : location page = some url) (element : ElementHandle) :
    (shop.around raises).Ensures excused (scrape (.innerText element))
      (Read page url (shop.element element).text) location :=
  Surroundings.ensures_perform (fun _ htext => ⟨hpage, htext⟩) fun _ => hraises

theorem ensures_getAttribute (hpage : location page = some url) (element : ElementHandle)
    (name : String) :
    (shop.around raises).Ensures excused (scrape (.getAttribute element name))
      (Read page url ((shop.element element).valueOf name)) location :=
  Surroundings.ensures_perform (fun _ hvalue => ⟨hpage, hvalue⟩) fun _ => hraises

/-- Whether a page has an element of a selector, and one of them. -/
theorem ensures_querySelector (hpage : location page = some url) (selector : String) :
    (shop.around raises).Ensures excused (scrape (.querySelector page selector))
      (fun found reached => reached page = some url ∧
        found.map shop.element = (shop.elements url selector).head?) location :=
  Surroundings.ensures_perform (fun _ hfound => ⟨hpage, hfound url hpage⟩) fun _ => hraises

theorem ensures_querySelectorAll (hpage : location page = some url) (selector : String) :
    (shop.around raises).Ensures excused (scrape (.querySelectorAll page selector))
      (fun found reached => reached page = some url ∧
        found.map shop.element = shop.elements url selector) location :=
  Surroundings.ensures_perform (fun _ hfound => ⟨hpage, hfound url hpage⟩) fun _ => hraises

theorem ensures_textAt (hpage : location page = some url) (selector : String) :
    (shop.around raises).Ensures excused (textAt page selector)
      (Read page url (shop.textAt url selector)) location := by
  refine (ensures_querySelector hraises hpage selector).bind fun found reached hfound => ?_
  obtain ⟨hreached, hfirst⟩ := hfound
  cases found with
  | none =>
      have hnone : shop.textAt url selector = none := by
        rw [Shop.textAt, ← hfirst]
        rfl
      rw [hnone]
      exact ensures_read_pure hreached
  | some element =>
      have hsome : shop.textAt url selector = some (shop.element element).text := by
        rw [Shop.textAt, ← hfirst]
        rfl
      rw [hsome]
      refine Surroundings.Ensures.map ?_
      exact (ensures_innerText hraises hreached element).mono fun _ _ hread =>
        ⟨hread.1, congrArg some hread.2⟩

theorem ensures_checkAvailabilityFromPage (hpage : location page = some url) :
    (shop.around raises).Ensures excused (checkAvailabilityFromPage site page)
      (Read page url (shop.availability site url)) location := by
  unfold Shop.availability
  refine (ensures_querySelector hraises hpage _).bind fun outOfStock reached hout => ?_
  obtain ⟨hreached, hout⟩ := hout
  cases outOfStock with
  | some element =>
      have hne : shop.elements url site.outOfStockBadge ≠ [] := by
        intro hnil
        rw [hnil] at hout
        cases hout
      rw [if_pos hne]
      exact ensures_read_pure hreached
  | none =>
      rw [if_neg (not_not.mpr (List.head?_eq_none_iff.mp hout.symm))]
      refine (ensures_querySelector hraises hreached _).bind fun lowStock later hlow => ?_
      obtain ⟨hlater, hlow⟩ := hlow
      cases lowStock with
      | some element =>
          have hne : shop.elements url site.lowStockBadge ≠ [] := by
            intro hnil
            rw [hnil] at hlow
            cases hlow
          rw [if_pos hne]
          exact ensures_read_pure hlater
      | none =>
          rw [if_neg (not_not.mpr (List.head?_eq_none_iff.mp hlow.symm))]
          exact ensures_read_pure hlater

/-- Every match is a number, so nothing is raised here. -/
theorem ensures_extractNumber (hpage : location page = some url) (selector : String) :
    (shop.around raises).Ensures excused (extractNumber page selector)
      (Read page url (numberIn (shop.textAt url selector))) location := by
  refine ensures_read_bind (ensures_textAt hraises hpage selector) fun reached hreached => ?_
  rw [floatOfMatch_eq]
  exact ensures_read_pure hreached

theorem ensures_extractPrice (hpage : location page = some url) :
    (shop.around raises).Ensures excused (extractPrice site page)
      (Read page url (numberIn (shop.textAt url site.price), numberIn (shop.textAt url site.mrp),
        discountOf (numberIn (shop.textAt url site.price))
          (numberIn (shop.textAt url site.mrp)))) location := by
  refine ensures_read_bind (ensures_extractNumber hraises hpage _) fun reached hreached => ?_
  refine ensures_read_bind (ensures_extractNumber hraises hreached _) fun later hlater => ?_
  rw [discountPct_eq]
  exact ensures_read_pure hlater

/-- `extract_eta` raises by itself only at more digits than `int` takes. -/
theorem ensures_extractEta (heta : shop.EtaTooLong site url → excused)
    (hpage : location page = some url) :
    (shop.around raises).Ensures excused (extractEta site page)
      (Read page url ((shop.etaDigits site url).map fun digits => (numeral digits : Int)))
      location := by
  refine ensures_read_bind (ensures_textAt hraises hpage _) fun reached hreached => ?_
  change (shop.around raises).Ensures excused (intOfMatch (shop.etaDigits site url)) _ reached
  cases hdigits : shop.etaDigits site url with
  | none => exact ensures_read_pure hreached
  | some digits =>
      dsimp only [intOfMatch]
      split
      · exact ensures_read_pure hreached
      · rename_i hlong
        exact Surroundings.ensures_raise (heta ⟨digits, hdigits, Nat.lt_of_not_le hlong⟩)

theorem ensures_strippedText (hpage : location page = some url) (selector : String) :
    (shop.around raises).Ensures excused
      (textAt page selector >>= fun text => pure (text.map strip))
      (Read page url ((shop.textAt url selector).map strip)) location :=
  ensures_read_bind (ensures_textAt hraises hpage selector) fun _ hreached =>
    ensures_read_pure hreached

theorem ensures_extractImage (hpage : location page = some url) :
    (shop.around raises).Ensures excused (extractImage site page)
      (Read page url ((shop.elements url site.image).head?.bind fun element =>
        element.valueOf "src")) location := by
  refine (ensures_querySelector hraises hpage _).bind fun found reached hfound => ?_
  obtain ⟨hreached, hfirst⟩ := hfound
  rw [← hfirst]
  cases found with
  | none => exact ensures_read_pure hreached
  | some element => exact ensures_getAttribute hraises hreached element "src"

theorem ensures_extractVariants (hpage : location page = some url) :
    (shop.around raises).Ensures excused (extractVariants site page)
      (Read page url ((shop.elements url site.variants).map fun element => strip element.text))
      location := by
  refine (ensures_querySelectorAll hraises hpage _).bind fun found reached hfound => ?_
  obtain ⟨hreached, hall⟩ := hfound
  rw [← hall, List.map_map]
  refine ensures_readAll found (fun element later hlater => ?_) hreached
  refine Surroundings.Ensures.map ?_
  exact (ensures_innerText hraises hlater element).mono fun _ _ hread =>
    ⟨hread.1, congrArg strip hread.2⟩

end Reading

/-! ## Navigation -/

/-- The result describes the page of the URL, at some time. -/
def Shop.Describes (shop : Shop) (site : Storefront) (url : String)
    (result : ProviderProductResult) : Prop :=
  ∃ scrapedAt, result = shop.product site url scrapedAt

section Navigation

variable {shop : Shop} {raises excused : Prop} {site : Storefront} {location : Locations}
variable (hraises : raises → excused)
include hraises

/-- A call of which only the effect on the pages counts. -/
theorem ensures_call {op : PageOp} (kept : Locations → Prop)
    (hkept : ∀ answer, kept (located op (.ok answer) location))
    (herror : ∀ error, shop.answers raises op (.error error) location → raises) :
    (shop.around raises).Ensures excused (scrape op) (fun _ reached => kept reached) location :=
  Surroundings.ensures_perform (fun answer _ => hkept answer) fun error h =>
    hraises (herror error h)

/-- A navigation that answers shows its URL. -/
theorem ensures_goto (page : Page) (url : String) (timeout : Nat) :
    (shop.around raises).Ensures excused (scrape (.goto page url timeout))
      (fun _ reached => reached page = some url) location := by
  refine ensures_call hraises (fun reached => reached page = some url) (fun _ => ?_) fun _ h => h
  exact Function.update_self page (some url) location

/-- The frame of a method keeps what its body returns. -/
theorem ensures_withPage {α : Type} {body : Page → Scraping α} {post : α → Prop}
    (hbody : ∀ page reached, (shop.around raises).Ensures excused (body page)
      (fun value _ => post value) reached) :
    (shop.around raises).Ensures excused (withPage site body) (fun value _ => post value)
      location := by
  have hclose : ∀ page reached, (shop.around raises).Ensures excused (scrape (.closePage page))
      (fun _ _ => True) reached := fun _ _ =>
    ensures_call hraises (fun _ => True) (fun _ => trivial) fun _ h => h
  have hbrowser : (shop.around raises).Ensures excused (scrape (.getBrowser site.slug))
      (fun found _ => ∃ browser, found = some browser) location := by
    refine Surroundings.ensures_perform ?_ ?_
    · rintro found ⟨browser, hfound⟩
      exact ⟨browser, Except.ok.inj hfound⟩
    · rintro error ⟨browser, hfound⟩
      cases hfound
  refine hbrowser.bind fun found reached hfound => ?_
  obtain ⟨browser, rfl⟩ := hfound
  have hpage : (shop.around raises).Ensures excused (scrape (.newPage browser))
      (fun _ _ => True) reached :=
    ensures_call hraises (fun _ => True) (fun _ => trivial) fun _ h => h
  refine hpage.bind fun page later _ => ?_
  refine (hbody page later).attempt ?_ ?_
  · intro value after hvalue
    exact (hclose page after).bind fun _ _ _ => Surroundings.ensures_ret hvalue
  · intro error after hexcused
    exact (hclose page after).bind fun _ _ _ => Surroundings.ensures_raise hexcused

theorem ensures_retrying {α : Type} {program : Scraping α} {post : α → Prop}
    (hprogram : ∀ reached, (shop.around raises).Ensures excused program
      (fun value _ => post value) reached) :
    (shop.around raises).Ensures excused (retrying program) (fun value _ => post value)
      location := by
  refine Surroundings.ensures_retry hprogram (fun attempt reached => ?_) 2
  change (shop.around raises).Ensures excused (scrape (.sleep (waitExponential attempt))) _ reached
  exact ensures_call hraises (fun _ => True) (fun _ => trivial) fun _ h => h

/-- What `get_product` returns describes the page of its URL. -/
theorem ensures_getProduct {url : String} (heta : shop.EtaTooLong site url → excused) :
    (shop.around raises).Ensures excused (getProduct site url)
      (fun result _ => shop.Describes site url result) location := by
  refine ensures_retrying hraises fun reached => ensures_withPage hraises fun page before => ?_
  refine (ensures_goto hraises page url 30000).bind fun _ opened hopened => ?_
  refine ensures_read_bind (ensures_textAt hraises hopened _) fun named hnamed => ?_
  refine ensures_read_bind (ensures_checkAvailabilityFromPage hraises hnamed)
    fun stocked hstocked => ?_
  refine ensures_read_bind (ensures_extractPrice hraises hstocked) fun priced hpriced => ?_
  refine ensures_read_bind (ensures_extractEta hraises heta hpriced) fun timed htimed => ?_
  refine ensures_read_bind (ensures_strippedText hraises htimed _) fun placed hplaced => ?_
  refine ensures_read_bind (ensures_extractImage hraises hplaced) fun pictured hpictured => ?_
  refine ensures_read_bind (ensures_strippedText hraises hpictured _) fun sized hsized => ?_
  refine ensures_read_bind (ensures_extractVariants hraises hsized) fun varied hvaried => ?_
  have hnow : (shop.around raises).Ensures excused (scrape .now) (fun _ _ => True) varied :=
    ensures_call hraises (fun _ => True) (fun _ => trivial) fun _ h => h
  refine hnow.bind fun scrapedAt done _ => ?_
  exact Surroundings.ensures_ret ⟨scrapedAt, rfl⟩

/-- What `search_product` returns describes the pages of the links, in their order. -/
theorem ensures_searchProduct {keyword : String}
    (heta : ∀ href ∈ shop.links site keyword,
      shop.EtaTooLong site (resultUrl site href) → excused) :
    (shop.around raises).Ensures excused (searchProduct site keyword)
      (fun results _ => List.Forall₂ (fun href => shop.Describes site (resultUrl site href))
        (shop.links site keyword) results) location := by
  refine ensures_retrying hraises fun reached => ensures_withPage hraises fun page before => ?_
  refine (ensures_goto hraises page _ 30000).bind fun _ opened hopened => ?_
  have hwait : (shop.around raises).Ensures excused
      (scrape (.waitForSelector page site.searchResultCard 10000))
      (fun _ waited => waited page = some (searchUrl site keyword)) opened :=
    ensures_call hraises _ (fun _ => hopened) fun _ h => h
  refine hwait.bind fun _ waited hwaited => ?_
  refine (ensures_querySelectorAll hraises hwaited _).bind fun cards found hfound => ?_
  obtain ⟨hfound, hcards⟩ := hfound
  refine ensures_read_bind (ensures_readAll cards
    (fun card _ hlater => ensures_getAttribute hraises hlater card "href") hfound)
    fun linked _ => ?_
  have hlinks : resultLinks (cards.map fun card => (shop.element card).valueOf "href") =
      shop.links site keyword := by
    rw [Shop.links, ← hcards, List.map_map]
    rfl
  rw [hlinks]
  refine (@Surroundings.ensures_mapM _ _ _ _ _ _ _ _ _ (fun _ => True) _ (shop.links site keyword)
    ?_ trivial).mono fun _ _ hall => hall.2
  intro href hhref later _
  exact (ensures_getProduct hraises (heta href hhref)).mono fun _ _ hresult => ⟨trivial, hresult⟩

/-- What `check_availability` returns is the stock that the page of its URL shows. -/
theorem ensures_checkAvailability (url : String) :
    (shop.around raises).Ensures excused (checkAvailability site url)
      (fun availability _ => availability = shop.availability site url) location := by
  refine ensures_withPage hraises fun page before => ?_
  refine (ensures_goto hraises page url 30000).bind fun _ opened hopened => ?_
  exact (ensures_checkAvailabilityFromPage hraises hopened).mono fun _ _ hread => hread.2

end Navigation

/-- Whatever calls raise and are made again: a search that returns describes the pages behind the
links of the search page, one after another, with the stock that `check_availability` finds there;
and only if a call has raised, or an ETA is too long for `int`, it does not return. -/
theorem searches_describe_products {S : Type} {shop : Shop} {raises : Prop}
    {handler : Handler pagePort ScrapeError S} {view : S → Locations}
    (hfits : (shop.around raises).Fits handler view) (site : Storefront) (keyword : String)
    (state : S) :
    (∀ results, (Co.exec handler (searchProduct site keyword) state).result = .ok results →
      List.Forall₂ (fun href => shop.Describes site (resultUrl site href))
          (shop.links site keyword) results ∧
        ∀ result ∈ results, ∀ url, result.productUrl = some url → ∀ later availability,
          (Co.exec handler (checkAvailability site url) later).result = .ok availability →
            availability = result.availability) ∧
      ∀ error, (Co.exec handler (searchProduct site keyword) state).result = .error error →
        raises ∨ ∃ href ∈ shop.links site keyword, shop.EtaTooLong site (resultUrl site href) := by
  have hsearch := (@ensures_searchProduct shop raises
    (raises ∨ ∃ href ∈ shop.links site keyword, shop.EtaTooLong site (resultUrl site href)) site
    (view state) Or.inl keyword fun href hhref hlong => .inr ⟨href, hhref, hlong⟩).exec hfits
  refine ⟨?_, hsearch.2⟩
  intro results hresults
  have hall := hsearch.1 results hresults
  refine ⟨hall, ?_⟩
  intro result hresult url hurl later availability havailability
  obtain ⟨href, _, scrapedAt, rfl⟩ := exists_partner hall.flip hresult
  have hsame : resultUrl site href = url := Option.some.inj hurl
  have hcheck := (@ensures_checkAvailability shop raises raises site (view later) id url).exec hfits
  have hstock := hcheck.1 availability havailability
  rw [hstock, ← hsame]
  rfl

/-- The elements of a small shop that sells milk. -/
def dairyElement : ElementHandle → Element
  | 0 => ⟨"", fun name => if name = "href" then some "/prn/milk" else none⟩
  | 1 => ⟨" Amul Milk ", fun _ => none⟩
  | 2 => ⟨"₹29", fun _ => none⟩
  | _ => ⟨"", fun _ => none⟩

/-- Where they are. -/
def dairyHandles (url selector : String) : List ElementHandle :=
  if selector = blinkitStorefront.searchResultCard then
    if url = searchUrl blinkitStorefront "milk" then [0] else []
  else if url = resultUrl blinkitStorefront "/prn/milk" then
    if selector = blinkitStorefront.productName then [1]
    else if selector = blinkitStorefront.price then [2]
    else []
  else []

def dairy : Shop := ⟨fun url selector => (dairyHandles url selector).map dairyElement, dairyElement⟩

/-- What is there of a selector on the page. -/
def dairyFound (location : Locations) (page : Page) (selector : String) : List ElementHandle :=
  ((location page).map fun url => dairyHandles url selector).getD []

/-- The browser at this shop; pages are numbered, and the first navigation times out. -/
def dairyBrowser : Handler pagePort ScrapeError (Locations × Nat) := fun op state =>
  let reply : Reply pagePort ScrapeError op :=
    match op with
    | .getBrowser _ => .ok (some ⟨3, 2⟩)
    | .newPage _ => .ok state.2
    | .goto page _ _ => if page = 0 then .error (.browsing .timeout) else .ok ()
    | .querySelector page selector => .ok (dairyFound state.1 page selector).head?
    | .querySelectorAll page selector => .ok (dairyFound state.1 page selector)
    | .getAttribute element name => .ok ((dairyElement element).valueOf name)
    | .innerText element => .ok (dairyElement element).text
    | .now => .ok 1000
    | .waitForSelector _ _ _ | .closePage _ | .sleep _ => .ok ()
  let opened := match op with
    | .newPage _ => 1
    | _ => 0
  (reply, located op reply state.1, state.2 + opened)

theorem dairy_fits : (dairy.around True).Fits dairyBrowser Prod.fst := by
  refine ⟨?_, fun _ _ => rfl⟩
  rintro op ⟨location, opened⟩
  cases op with
  | getBrowser slug => exact ⟨⟨3, 2⟩, rfl⟩
  | querySelector page selector =>
      intro url hurl
      have hpage : location page = some url := hurl
      simp [dairyFound, hpage, dairy]
  | querySelectorAll page selector =>
      intro url hurl
      have hpage : location page = some url := hurl
      simp [dairyFound, hpage, dairy]
  | getAttribute element name => rfl
  | innerText element => rfl
  | goto page url timeout =>
      change dairy.answers True (.goto page url timeout)
        (if page = 0 then .error (.browsing .timeout) else .ok ()) location
      split <;> trivial
  | _ => trivial

/-- The search for milk is made twice, and finds the one product. -/
theorem milk_search_describes :
    ∃ results, (Co.exec dairyBrowser (searchProduct blinkitStorefront "milk")
        (fun _ => none, 0)).result = .ok results ∧
      results.map (fun result => (result.productName, result.availability)) =
        [("Amul Milk", .available)] ∧
      List.Forall₂ (fun href =>
          dairy.Describes blinkitStorefront (resultUrl blinkitStorefront href))
        (dairy.links blinkitStorefront "milk") results := by
  have hnames : (Co.exec dairyBrowser (searchProduct blinkitStorefront "milk")
      (fun _ => none, 0)).result.map (List.map fun result =>
        (result.productName, result.availability)) = .ok [("Amul Milk", .available)] := by
    decide +kernel
  cases hresult : (Co.exec dairyBrowser (searchProduct blinkitStorefront "milk")
      (fun _ => none, 0)).result with
  | error error =>
      rw [hresult] at hnames
      cases hnames
  | ok results =>
      rw [hresult] at hnames
      have hall := (searches_describe_products dairy_fits blinkitStorefront "milk" _).1 results
        hresult
      exact ⟨results, rfl, Except.ok.inj hnames, hall.1⟩

end StockMonitoring.Infrastructure.Providers
