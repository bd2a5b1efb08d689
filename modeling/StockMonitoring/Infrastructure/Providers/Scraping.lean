import StockMonitoring.Foundation.Cleanup
import StockMonitoring.Foundation.Numerals
import StockMonitoring.Infrastructure.Providers.Browsers
import Mathlib.Data.List.DropRight

set_option autoImplicit false

/-!
# Infrastructure: the pages of a provider

Navigation and extraction of the four adapters, from `search_product` to `health_check`;
`initialize` and `close` are in `Browsers`.  The adapters differ in their search URL and in their
selectors only, so there is one program for each method and a `Storefront` for each adapter.

Playwright is outside, and so is the page it shows: a call is answered, or it raises.  The tests
`is not None` and the use of an attribute right after them are one call, since nothing is awaited
in between.
-/

namespace StockMonitoring.Infrastructure.Providers

open StockMonitoring.Foundation StockMonitoring.Domain

/-! ## The adapters -/

/-- What sets an adapter apart once its browser is there: how it searches, and the rest of its
`SELECTORS`. -/
structure Storefront extends RetailSite where
  /-- path of the search page, below `BASE_URL` -/
  searchPath : String
  /-- the query parameter of the search page -/
  searchParameter : String
  searchResultCard : String
  productName : String
  price : String
  mrp : String
  eta : String
  store : String
  image : String
  quantity : String
  variants : String
  outOfStockBadge : String
  lowStockBadge : String
  deriving DecidableEq

/-- `BlinkitProvider`, with `BLINKIT_SELECTORS`. -/
def blinkitStorefront : Storefront where
  toRetailSite := blinkitProvider
  searchPath := "/s/"
  searchParameter := "q"
  searchResultCard := "[data-test-id='plp-product-card'] a"
  productName := "[data-test-id='product-name']"
  price := "[data-test-id='product-price']"
  mrp := "[data-test-id='product-mrp']"
  eta := "[data-test-id='eta']"
  store := "[data-test-id='store-name']"
  image := "[data-test-id='product-image'] img"
  quantity := "[data-test-id='product-quantity']"
  variants := "[data-test-id='variant-option']"
  outOfStockBadge := "[data-test-id='out-of-stock']"
  lowStockBadge := "[data-test-id='low-stock']"

/-- `ZeptoProvider`, with `ZEPTO_SELECTORS`. -/
def zeptoStorefront : Storefront where
  toRetailSite := zeptoProvider
  searchPath := "/search"
  searchParameter := "q"
  searchResultCard := "[data-test-id='plp-product-card'] a"
  productName := "[data-test-id='pdp-product-name']"
  price := "[data-test-id='pdp-product-price']"
  mrp := "[data-test-id='pdp-product-mrp']"
  eta := "[data-test-id='pdp-eta']"
  store := "[data-test-id='pdp-store-name']"
  image := "[data-test-id='pdp-product-image'] img"
  quantity := "[data-test-id='pdp-product-quantity']"
  variants := "[data-test-id='pdp-variant']"
  outOfStockBadge := "[data-test-id='pdp-sold-out']"
  lowStockBadge := "[data-test-id='pdp-low-stock']"

/-- `InstamartProvider`, with `INSTAMART_SELECTORS`. -/
def instamartStorefront : Storefront where
  toRetailSite := instamartProvider
  searchPath := "/search"
  searchParameter := "query"
  searchResultCard := "[data-testid='item-card'] a"
  productName := "[data-testid='item-name']"
  price := "[data-testid='item-price']"
  mrp := "[data-testid='item-mrp']"
  eta := "[data-testid='item-eta']"
  store := "[data-testid='item-store']"
  image := "[data-testid='item-image'] img"
  quantity := "[data-testid='item-quantity']"
  variants := "[data-testid='item-variant']"
  outOfStockBadge := "[data-testid='item-out-of-stock']"
  lowStockBadge := "[data-testid='item-low-stock']"

/-- `BigBasketProvider`, with `BIGBASKET_SELECTORS`. -/
def bigBasketStorefront : Storefront where
  toRetailSite := bigBasketProvider
  searchPath := "/ps/"
  searchParameter := "q"
  searchResultCard := "[data-qa='product-card'] a"
  productName := "[data-qa='product-name']"
  price := "[data-qa='product-price']"
  mrp := "[data-qa='product-mrp']"
  eta := "[data-qa='product-eta']"
  store := "[data-qa='product-store']"
  image := "[data-qa='product-image'] img"
  quantity := "[data-qa='product-quantity']"
  variants := "[data-qa='product-variant']"
  outOfStockBadge := "[data-qa='product-out-of-stock']"
  lowStockBadge := "[data-qa='product-low-stock']"

def storefronts : List Storefront :=
  [blinkitStorefront, zeptoStorefront, instamartStorefront, bigBasketStorefront]

/-- They are the adapters of the factories. -/
theorem storefronts_sites : storefronts.map Storefront.toRetailSite = providerFactories := rfl

/-! ## Texts -/

/-- `str.isspace` on one character. -/
def isWhiteSpace (char : Char) : Bool :=
  [(0x9, 0xd), (0x1c, 0x20), (0x85, 0x85), (0xa0, 0xa0), (0x1680, 0x1680), (0x2000, 0x200a),
    (0x2028, 0x2029), (0x202f, 0x202f), (0x205f, 0x205f), (0x3000, 0x3000)].any fun range =>
      decide (range.1 ≤ char.toNat) && decide (char.toNat ≤ range.2)

/-- `str.strip()`. -/
def strip (text : String) : String :=
  String.ofList ((text.toList.dropWhile isWhiteSpace).rdropWhile isWhiteSpace)

/-- `[\d,]` -/
def isAmountChar (char : Char) : Bool := isDecimal char || char == ','

/-- `\.?\d*` at the beginning of a text. -/
def pointAndDigits : List Char → List Char
  | '.' :: rest => '.' :: rest.takeWhile isDecimal
  | rest => rest.takeWhile isDecimal

/-- `re.search(r"[\d,]+\.?\d*", text)`.  No part of the pattern has to give back what it has
taken. -/
def searchNumber (text : List Char) : Option (List Char) :=
  let start := text.dropWhile fun char => !isAmountChar char
  if start = [] then none
  else some (start.takeWhile isAmountChar ++ pointAndDigits (start.dropWhile isAmountChar))

/-- `re.search(r"(\d+)", text)`. -/
def searchDigits (text : List Char) : Option (List Char) :=
  let start := text.dropWhile fun char => !isDecimal char
  if start = [] then none else some (start.takeWhile isDecimal)

/-! ## The calls -/

abbrev Page : Type := Nat

abbrev ElementHandle : Type := Nat

/-- What the methods raise. -/
inductive ScrapeError where
  /-- an awaited call of Playwright, or a pause, raises -/
  | browsing (error : BrowsingError)
  | assertionError (message : String)
  | valueError (message : String)
  | zeroDivisionError (message : String)
  /-- `tenacity.RetryError` -/
  | retryError
  deriving DecidableEq

/-- The calls of the methods. -/
inductive PageOp where
  /-- `self._browser` -/
  | getBrowser (slug : String)
  | newPage (browser : Browser)
  /-- `timeout` is in milliseconds -/
  | goto (page : Page) (url : String) (timeout : Nat)
  | waitForSelector (page : Page) (selector : String) (timeout : Nat)
  | querySelector (page : Page) (selector : String)
  | querySelectorAll (page : Page) (selector : String)
  | getAttribute (element : ElementHandle) (name : String)
  | innerText (element : ElementHandle)
  | closePage (page : Page)
  /-- `datetime.now(timezone.utc)` -/
  | now
  /-- `asyncio.sleep`, between two attempts -/
  | sleep (seconds : Nat)
  deriving DecidableEq

/-- What each call answers with. -/
abbrev PageOp.Answer : PageOp → Type
  | .getBrowser _ => Option Browser
  | .newPage _ => Page
  | .querySelector _ _ => Option ElementHandle
  | .querySelectorAll _ _ => List ElementHandle
  | .getAttribute _ _ => Option String
  | .innerText _ => String
  | .now => Datetime
  | _ => Unit

/-- The port signature of the methods. -/
abbrev pagePort : Signature := ⟨PageOp, PageOp.Answer⟩

/-- A program of the methods. -/
abbrev Scraping (α : Type) : Type := Co pagePort ScrapeError α

/-- One call. -/
abbrev scrape (op : PageOp) : Scraping op.Answer := @Co.perform pagePort ScrapeError op

/-! ## Reading a page -/

/-- `check_availability_from_page`. -/
def checkAvailabilityFromPage (site : Storefront) (page : Page) : Scraping Availability := do
  let outOfStock ← scrape (.querySelector page site.outOfStockBadge)
  match outOfStock with
  | some _ => pure .outOfStock
  | none =>
      let lowStock ← scrape (.querySelector page site.lowStockBadge)
      match lowStock with
      | some _ => pure .lowStock
      | none => pure .available

/-- `float(match.group(0)) if match else None`. -/
def floatOfMatch : Option (List Char) → Scraping (Option Rat)
  | none => pure none
  | some number =>
      match float? number with
      | some value => pure (some value)
      | none =>
          .raise (.valueError s!"could not convert string to float: '{String.ofList number}'")

/-- The text of an element, where there is one. -/
def innerTextOf : Option ElementHandle → Scraping (Option String)
  | none => pure none
  | some element => some <$> scrape (.innerText element)

/-- The text of the first element of a selector. -/
def textAt (page : Page) (selector : String) : Scraping (Option String) := do
  let element ← scrape (.querySelector page selector)
  innerTextOf element

/-- `text.replace(",", "")`. -/
def withoutCommas (text : String) : List Char := text.toList.filter (· ≠ ',')

/-- `_extract_number`. -/
def extractNumber (page : Page) (selector : String) : Scraping (Option Rat) := do
  let text ← textAt page selector
  floatOfMatch (text.bind fun text => searchNumber (withoutCommas text))

/-- `round(value, 1)`. -/
def roundOne (value : Rat) : Rat := roundHalfEven (value * 10) / 10

/-- `dividend / divisor`. -/
def divide (dividend divisor : Rat) : Scraping Rat :=
  if divisor = 0 then .raise (.zeroDivisionError "float division by zero")
  else pure (dividend / divisor)

/-- `if price is not None and mrp`: a MRP of zero is not truthy. -/
def discountPct : Option Rat → Option Rat → Scraping (Option Rat)
  | some price, some mrp =>
      if mrp ≠ 0 then do
        let ratio ← divide price mrp
        return some (roundOne ((1 - ratio) * 100))
      else pure none
  | _, _ => pure none

/-- `extract_price`. -/
def extractPrice (site : Storefront) (page : Page) :
    Scraping (Option Rat × Option Rat × Option Rat) := do
  let price ← extractNumber page site.price
  let mrp ← extractNumber page site.mrp
  let discount ← discountPct price mrp
  return (price, mrp, discount)

/-- `int(match.group(1)) if match else None`, with the limit of `int` on the digits of a text. -/
def intOfMatch : Option (List Char) → Scraping (Option Int)
  | none => pure none
  | some digits =>
      if digits.length ≤ 4300 then pure (some (numeral digits))
      else .raise (.valueError ("Exceeds the limit (4300 digits) for integer string conversion: " ++
        s!"value has {digits.length} digits; " ++
          "use sys.set_int_max_str_digits() to increase the limit"))

/-- `extract_eta`. -/
def extractEta (site : Storefront) (page : Page) : Scraping (Option Int) := do
  let text ← textAt page site.eta
  intOfMatch (text.bind fun text => searchDigits text.toList)

/-- `extract_store`. -/
def extractStore (site : Storefront) (page : Page) : Scraping (Option String) := do
  let text ← textAt page site.store
  return text.map strip

/-- `extract_image`. -/
def extractImage (site : Storefront) (page : Page) : Scraping (Option String) := do
  let element ← scrape (.querySelector page site.image)
  match element with
  | none => pure none
  | some element => scrape (.getAttribute element "src")

/-- `extract_quantity`. -/
def extractQuantity (site : Storefront) (page : Page) : Scraping (Option String) := do
  let text ← textAt page site.quantity
  return text.map strip

/-- `extract_variants`. -/
def extractVariants (site : Storefront) (page : Page) : Scraping (List String) := do
  let elements ← scrape (.querySelectorAll page site.variants)
  elements.mapM fun element => strip <$> scrape (.innerText element)

/-! ## Navigation -/

/-- `finally: await page.close()`. -/
def thenClosePage {α : Type} (page : Page) (result : Except ScrapeError α) : Scraping α := do
  scrape (.closePage page)
  match result with
  | .ok value => pure value
  | .error error => .raise error

/-- The frame of the methods that navigate: the assertion on the browser, a new page, and its end
in `finally`. -/
def withPage {α : Type} (site : Storefront) (body : Page → Scraping α) : Scraping α := do
  let browser ← scrape (.getBrowser site.slug)
  match browser with
  | none => .raise (.assertionError "call initialize() first")
  | some browser =>
      scrape (.newPage browser) >>= fun page => (body page).attempt (thenClosePage page)

/-- The wait of `wait_exponential(multiplier=1, min=1, max=8)` after an attempt. -/
def waitExponential (attempt : Nat) : Nat := max 1 (min (2 ^ (attempt - 1)) 8)

/-- How `@retry` tries again: after every `Exception`, which `CancelledError` is not. -/
def retryPolicy : RetryPolicy pagePort ScrapeError where
  retries
    | .browsing .cancelled => false
    | _ => true
  pause := fun attempt => scrape (.sleep (waitExponential attempt))
  gaveUp := .retryError

/-- `@retry(stop=stop_after_attempt(3), …)`. -/
def retrying {α : Type} (program : Scraping α) : Scraping α := Co.retry retryPolicy 2 program

/-- The `try` block of `get_product`. -/
def readProduct (site : Storefront) (productUrl : String) (page : Page) :
    Scraping ProviderProductResult := do
  scrape (.goto page productUrl 30000)
  let name ← textAt page site.productName
  let productName := (name.map strip).getD ""
  let availability ← checkAvailabilityFromPage site page
  let (price, mrp, discount) ← extractPrice site page
  let etaMinutes ← extractEta site page
  let storeName ← extractStore site page
  let imageUrl ← extractImage site page
  let quantityLabel ← extractQuantity site page
  let variants ← extractVariants site page
  let scrapedAt ← scrape .now
  return {
    retailerSlug := site.slug
    keyword := productName
    productName := productName
    availability := availability
    price := price
    mrp := mrp
    discountPct := discount
    etaMinutes := etaMinutes
    storeName := storeName
    imageUrl := imageUrl
    quantityLabel := quantityLabel
    variants := variants
    productUrl := some productUrl
    scrapedAt := scrapedAt }

/-- `get_product`. -/
def getProduct (site : Storefront) (productUrl : String) : Scraping ProviderProductResult :=
  retrying (withPage site (readProduct site productUrl))

/-- The URL of a search: the keyword is put into it as it is. -/
def searchUrl (site : Storefront) (keyword : String) : String :=
  s!"{site.baseUrl}{site.searchPath}?{site.searchParameter}={keyword}"

/-- The URL of a result, from the `href` of its card. -/
def resultUrl (site : Storefront) (href : String) : String := s!"{site.baseUrl}{href}"

/-- `[… for url in urls if url]`: the attributes that are there and not empty. -/
def resultLinks (hrefs : List (Option String)) : List String := hrefs.reduceOption.filter (· ≠ "")

/-- The `try` block of `search_product`. -/
def readResults (site : Storefront) (keyword : String) (page : Page) :
    Scraping (List ProviderProductResult) := do
  scrape (.goto page (searchUrl site keyword) 30000)
  scrape (.waitForSelector page site.searchResultCard 10000)
  let cards ← scrape (.querySelectorAll page site.searchResultCard)
  let hrefs ← cards.mapM fun card => scrape (.getAttribute card "href")
  (resultLinks hrefs).mapM fun href => getProduct site (resultUrl site href)

/-- `search_product`. -/
def searchProduct (site : Storefront) (keyword : String) :
    Scraping (List ProviderProductResult) :=
  retrying (withPage site (readResults site keyword))

/-- `check_availability`. -/
def checkAvailability (site : Storefront) (productUrl : String) : Scraping Availability :=
  withPage site fun page => do
    scrape (.goto page productUrl 30000)
    checkAvailabilityFromPage site page

/-- The `try` block of `health_check`: here the page is closed on the way, not in `finally`. -/
def reach (site : Storefront) (browser : Browser) : Scraping Bool := do
  let page ← scrape (.newPage browser)
  scrape (.goto page site.baseUrl 10000)
  scrape (.closePage page)
  return true

/-- `except PlaywrightTimeoutError: return False`. -/
def falseOnTimeout : Except ScrapeError Bool → Scraping Bool
  | .ok value => pure value
  | .error (.browsing .timeout) => pure false
  | .error error => .raise error

/-- `health_check`. -/
def healthCheck (site : Storefront) : Scraping Bool := do
  let browser ← scrape (.getBrowser site.slug)
  match browser with
  | none => pure false
  | some browser => (reach site browser).attempt falseOnTimeout

end StockMonitoring.Infrastructure.Providers
