import StockMonitoring.Domain.Entities
import StockMonitoring.Foundation.Tasks
import Mathlib.Logic.Function.Basic

set_option autoImplicit false

/-!
# Infrastructure: the browser of a provider

`initialize` and `close` of the four adapters, on the one instance the registry caches for
each retailer.  The adapters differ in their site only, so there is one `initialize` and a
`RetailSite` for each.  Reading and assigning an attribute is a call that is not awaited.

Playwright is outside.  It decides how an awaited call ends, and an awaited call that raises
may have done its work (a task that is cancelled while the driver starts leaves the driver
running).  What was started, and for which provider, and what was stopped is noted.
-/

namespace StockMonitoring.Infrastructure.Providers

open StockMonitoring.Foundation StockMonitoring.Domain

/-! ## The adapters -/

/-- What sets an adapter apart: its `slug`, its `BASE_URL` and its location selectors. -/
structure RetailSite where
  slug : String
  baseUrl : String
  locationTrigger : String
  locationInput : String
  locationConfirm : String
  deriving DecidableEq

/-- `BlinkitProvider`. -/
def blinkitProvider : RetailSite :=
  ⟨"blinkit", "https://blinkit.com", "[data-test-id='select-location']",
    "[data-test-id='location-search-input']", "[data-test-id='location-confirm']"⟩

/-- `ZeptoProvider`. -/
def zeptoProvider : RetailSite :=
  ⟨"zepto", "https://www.zeptonow.com", "[data-test-id='select-location']",
    "[data-test-id='location-search-input']", "[data-test-id='location-confirm']"⟩

/-- `InstamartProvider`. -/
def instamartProvider : RetailSite :=
  ⟨"instamart", "https://www.swiggy.com/instamart", "[data-testid='select-location']",
    "[data-testid='location-search-input']", "[data-testid='location-confirm']"⟩

/-- `BigBasketProvider`. -/
def bigBasketProvider : RetailSite :=
  ⟨"bigbasket", "https://www.bigbasket.com", "[data-qa='select-location']",
    "[data-qa='location-search-input']", "[data-qa='location-confirm']"⟩

/-- The factories of `main`. -/
def providerFactories : List RetailSite :=
  [blinkitProvider, zeptoProvider, instamartProvider, bigBasketProvider]

/-! ## The calls -/

/-- A browser, and the driver it was launched by. -/
structure Browser where
  id : Nat
  playwright : Nat
  deriving DecidableEq

/-- What a provider starts. -/
inductive Process where
  | driver (playwright : Nat)
  | browser (browser : Browser)
  deriving DecidableEq

/-- What the awaited calls raise, and the `KeyError` of the registry. -/
inductive BrowsingError where
  /-- `PlaywrightTimeoutError` -/
  | timeout
  /-- any other error of Playwright -/
  | playwright (message : String)
  /-- `asyncio.CancelledError` -/
  | cancelled
  | keyError (message : String)
  deriving DecidableEq

/-- The calls of `initialize`, `close` and their callers. -/
inductive BrowserOp where
  /-- `InMemoryProviderRegistry.get` -/
  | registryGet (slug : String)
  /-- `InMemoryProviderRegistry.list_active_slugs` -/
  | listActiveSlugs
  /-- `self._playwright` -/
  | getPlaywright (slug : String)
  /-- `self._browser` -/
  | getBrowser (slug : String)
  | setPlaywright (slug : String) (playwright : Option Nat)
  | setBrowser (slug : String) (browser : Option Browser)
  /-- `async_playwright().start()` -/
  | start (slug : String)
  /-- `chromium.launch` -/
  | launch (slug : String) (playwright : Nat)
  | newPage (browser : Browser)
  | goto (url : String)
  | click (selector : String)
  | fill (selector value : String)
  | closePage
  /-- `self._browser.close()` -/
  | closeBrowser (browser : Browser)
  /-- `self._playwright.stop()` -/
  | stopPlaywright (playwright : Nat)
  deriving DecidableEq

/-- What each call answers with. -/
abbrev BrowserOp.Answer : BrowserOp → Type
  | .registryGet _ => RetailSite
  | .listActiveSlugs => List String
  | .getPlaywright _ => Option Nat
  | .getBrowser _ => Option Browser
  | .start _ => Nat
  | .launch _ _ => Browser
  | _ => Unit

/-- The port signature of the adapters. -/
abbrev browserPort : Signature := ⟨BrowserOp, BrowserOp.Answer⟩

/-- A program of the adapters. -/
abbrev Browsing (α : Type) : Type := Co browserPort BrowsingError α

/-- One call. -/
abbrev browse (op : BrowserOp) : Browsing op.Answer := @Co.perform browserPort BrowsingError op

/-! ## The programs -/

/-- The inner `try` of `initialize`. -/
def setLocation (site : RetailSite) (location : LocationContext) : Browsing Unit := do
  browse (.click site.locationTrigger)
  browse (.fill site.locationInput location.pincode)
  browse (.click site.locationConfirm)

/-- `except PlaywrightTimeoutError: pass`. -/
def passTimeout : Except BrowsingError Unit → Browsing Unit
  | .ok _ => pure ()
  | .error .timeout => pure ()
  | .error error => .raise error

/-- `finally: await page.close()`. -/
def finallyClosePage (result : Except BrowsingError Unit) : Browsing Unit := do
  browse .closePage
  match result with
  | .ok _ => pure ()
  | .error error => .raise error

/-- `initialize` from `new_page` on. -/
def visit (site : RetailSite) (location : LocationContext) (browser : Browser) :
    Browsing Unit := do
  browse (.newPage browser)
  (do
    browse (.goto site.baseUrl)
    (setLocation site location).attempt passTimeout).attempt finallyClosePage

/-- `initialize` once the driver is there.  Nothing is awaited between the assignment of
`self._playwright` and its use, or between that of `self._browser` and its use. -/
def launchBrowser (site : RetailSite) (location : LocationContext) (playwright : Nat) :
    Browsing Unit := do
  let browser ← browse (.launch site.slug playwright)
  browse (.setBrowser site.slug (some browser))
  visit site location browser

/-- `initialize` where there is no browser. -/
def startPlaywright (site : RetailSite) (location : LocationContext) : Browsing Unit := do
  let playwright ← browse (.start site.slug)
  browse (.setPlaywright site.slug (some playwright))
  launchBrowser site location playwright

/-- `initialize`. -/
def initializeInstance (site : RetailSite) (location : LocationContext) : Browsing Unit := do
  let browser ← browse (.getBrowser site.slug)
  match browser with
  | none => startPlaywright site location
  | some browser => visit site location browser

/-- The second branch of `close`. -/
def stopPlaywright (site : RetailSite) (playwright : Nat) : Browsing Unit := do
  browse (.stopPlaywright playwright)
  browse (.setPlaywright site.slug none)

/-- `close` from its second test on. -/
def closePlaywright (site : RetailSite) : Browsing Unit := do
  let playwright ← browse (.getPlaywright site.slug)
  match playwright with
  | none => pure ()
  | some playwright => stopPlaywright site playwright

/-- `close` from its first branch on. -/
def closeBrowser (site : RetailSite) (browser : Browser) : Browsing Unit := do
  browse (.closeBrowser browser)
  browse (.setBrowser site.slug none)
  closePlaywright site

/-- `close`. -/
def close (site : RetailSite) : Browsing Unit := do
  let browser ← browse (.getBrowser site.slug)
  match browser with
  | none => closePlaywright site
  | some browser => closeBrowser site browser

/-! ## What the calls do -/

/-- The instances of the registry with their attributes, and the processes. -/
structure BrowserStore where
  /-- the keys of `_instances`, in the order of insertion -/
  instances : List String
  /-- `_playwright` of the instance; `None` before it is assigned -/
  playwright : String → Option Nat
  /-- `_browser` of the instance -/
  browser : String → Option Browser
  /-- everything started, with the provider it was started by -/
  started : List (String × Process)
  stopped : List Process

/-- Before any provider is there. -/
def BrowserStore.empty : BrowserStore := ⟨[], fun _ => none, fun _ => none, [], []⟩

/-- What is fixed: the factories of the registry, and whether a driver that stops takes its
browsers along. -/
structure BrowserConfig where
  factories : List RetailSite
  stopsBrowsers : Bool

/-- The browsers of a driver. -/
def browsersOf (store : BrowserStore) (playwright : Nat) : List Process :=
  (store.started.map Prod.snd).filter fun
    | .browser browser => browser.playwright == playwright
    | .driver _ => false

/-- A process is started. -/
def BrowserStore.note (store : BrowserStore) (slug : String) (process : Process) :
    BrowserStore :=
  { store with started := store.started ++ [(slug, process)] }

/-- A call that does its work. -/
def work (config : BrowserConfig) : (op : BrowserOp) → BrowserStore →
    Reply browserPort BrowsingError op × BrowserStore
  | .registryGet slug, store =>
      match config.factories.find? fun site => site.slug == slug with
      | none => (.error (.keyError s!"No provider registered for '{slug}'"), store)
      | some site =>
          (.ok site, if slug ∈ store.instances then store
            else { store with instances := store.instances ++ [slug] })
  | .listActiveSlugs, store => (.ok store.instances, store)
  | .getPlaywright slug, store => (.ok (store.playwright slug), store)
  | .getBrowser slug, store => (.ok (store.browser slug), store)
  | .setPlaywright slug playwright, store =>
      (.ok (), { store with playwright := Function.update store.playwright slug playwright })
  | .setBrowser slug browser, store =>
      (.ok (), { store with browser := Function.update store.browser slug browser })
  | .start slug, store =>
      (.ok store.started.length, store.note slug (.driver store.started.length))
  | .launch slug playwright, store =>
      let browser : Browser := ⟨store.started.length, playwright⟩
      (.ok browser, store.note slug (.browser browser))
  | .closeBrowser browser, store =>
      (.ok (), { store with stopped := .browser browser :: store.stopped })
  | .stopPlaywright playwright, store =>
      (.ok (), { store with
        stopped := .driver playwright ::
          ((if config.stopsBrowsers then browsersOf store playwright else []) ++ store.stopped) })
  | .newPage _, store | .goto _, store | .click _, store | .fill _ _, store
  | .closePage, store => (.ok (), store)

/-- How an awaited call ends. -/
inductive Ending where
  | returns
  /-- it raises and has done nothing -/
  | raises (error : BrowsingError)
  /-- it raises and has done its work -/
  | raisesAfter (error : BrowsingError)
  deriving DecidableEq

/-- A call with its end. -/
def respond (config : BrowserConfig) (op : BrowserOp) (ending : Ending) (store : BrowserStore) :
    Reply browserPort BrowsingError op × BrowserStore :=
  match ending with
  | .returns => work config op store
  | .raises error => (.error error, store)
  | .raisesAfter error => (.error error, (work config op store).2)

/-- The calls that are awaited. -/
def awaits : BrowserOp → Bool
  | .registryGet _ | .listActiveSlugs | .getPlaywright _ | .getBrowser _ | .setPlaywright _ _
  | .setBrowser _ _ => false
  | .start _ | .launch _ _ | .newPage _ | .goto _ | .click _ | .fill _ _ | .closePage
  | .closeBrowser _ | .stopPlaywright _ => true

/-- A cancelled await raises `CancelledError`. -/
def Ending.cancels : Ending → Bool
  | .raises error | .raisesAfter error => error == .cancelled
  | .returns => false

end StockMonitoring.Infrastructure.Providers
