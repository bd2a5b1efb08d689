import StockMonitoring.Foundation.WebUrl
import StockMonitoring.Infrastructure.Providers.Scraping

set_option autoImplicit false

/-!
# Infrastructure: what a search asks for

`search_product` puts the keyword into its URL as it is.  The browser parses that URL, and the
shop the query: here is which keywords they get.
-/

namespace StockMonitoring.Infrastructure.Providers

open StockMonitoring.Foundation StockMonitoring.Foundation.WebUrl

/-- What the URL of a search begins with, up to its query. -/
def searchHead (site : Storefront) : List Char := site.baseUrl.toList ++ site.searchPath.toList

theorem toList_searchUrl (site : Storefront) (keyword : String) :
    (searchUrl site keyword).toList =
      searchHead site ++ '?' :: (site.searchParameter.toList ++ '=' :: keyword.toList) := by
  simp only [searchUrl, searchHead, String.toList_append, List.append_assoc]
  rfl

/-- The search URLs of the adapters end with the value of their only parameter. -/
theorem searchFrame : ∀ site ∈ storefronts,
    QueryFrame (searchHead site) site.searchParameter.toList := by
  have hvisible : ∀ site ∈ storefronts,
      (searchHead site ++ '?' :: (site.searchParameter.toList ++ ['='])).any isControlOrSpace =
        false := by decide
  have hpath : ∀ site ∈ storefronts, (searchHead site).any endsPath = false := by decide
  have hparses : ∀ site ∈ storefronts, (parseHead (searchHead site)).isSome = true := by decide
  have hdelimiters : ∀ site ∈ storefronts, '=' ∉ site.searchParameter.toList ∧
      '&' ∉ site.searchParameter.toList ∧ '#' ∉ site.searchParameter.toList := by decide
  have hdecodes : ∀ site ∈ storefronts,
      hasEscape site.searchParameter.toList = false ∧ '+' ∉ site.searchParameter.toList := by
    decide
  intro site hsite
  refine ⟨fun char hchar => ?_, fun char hchar => ?_, hparses site hsite, hdelimiters site hsite,
    decodeText_eq_self_iff.mpr (hdecodes site hsite)⟩
  · exact Bool.eq_false_iff.mpr (List.any_eq_false.mp (hvisible site hsite) char hchar)
  · exact Bool.eq_false_iff.mpr (List.any_eq_false.mp (hpath site hsite) char hchar)

/-- The shop gets the keyword, and nothing else: the URL of the search has no fragment, and its
query has one parameter, whose value is the keyword. -/
def CarriesKeyword (site : Storefront) (keyword : String) : Prop :=
  ∃ url, parseUrl (searchUrl site keyword).toList = some url ∧ url.fragment = none ∧
    url.query.map parseParameters = some [(site.searchParameter, keyword)]

theorem carriesKeyword_iff_readsAs (site : Storefront) (keyword : String) :
    CarriesKeyword site keyword ↔
      ReadsAs (searchHead site ++ '?' :: (site.searchParameter.toList ++ '=' :: keyword.toList))
        site.searchParameter.toList keyword.toList := by
  rw [CarriesKeyword, ReadsAs, toList_searchUrl, String.ofList_toList, String.ofList_toList]

/-- A search asks for its keyword exactly if the keyword has nothing that a URL or its query
reads as something else. -/
theorem carries_keyword_iff : ∀ site ∈ storefronts, ∀ keyword : String,
    CarriesKeyword site keyword ↔ QuerySafe keyword.toList := by
  intro site hsite keyword
  rw [carriesKeyword_iff_readsAs]
  exact (searchFrame site hsite).readsAs_iff keyword.toList

/-- On Zepto, with spaces, a percent sign and an equals sign. -/
theorem zepto_carries_rice :
    zeptoStorefront ∈ storefronts ∧ CarriesKeyword zeptoStorefront "basmati rice = 5% off" :=
  ⟨by decide, (carries_keyword_iff zeptoStorefront (by decide) _).mpr (by decide +kernel)⟩

/-- A keyword with an ampersand is cut: Blinkit is asked for its first word, with a parameter
more. -/
theorem blinkit_cuts_keyword :
    (parseUrl (searchUrl blinkitStorefront "salt & pepper").toList).map
        (fun url => url.query.map parseParameters) =
      some (some [("q", "salt "), (" pepper", "")]) ∧
    ¬CarriesKeyword blinkitStorefront "salt & pepper" := by
  have hparsed : (parseUrl (searchUrl blinkitStorefront "salt & pepper").toList).map
      (fun url => url.query.map parseParameters) =
        some (some [("q", "salt "), (" pepper", "")]) := by
    decide
  refine ⟨hparsed, ?_⟩
  rintro ⟨url, hurl, _, hquery⟩
  rw [hurl, Option.map_some, hquery] at hparsed
  revert hparsed
  decide

end StockMonitoring.Infrastructure.Providers
