import StockMonitoring.Foundation.UriReference
import StockMonitoring.Infrastructure.Providers.SearchUrls

set_option autoImplicit false

/-!
# Infrastructure: where the results lead

`search_product` makes the URL of a product by putting `BASE_URL` before the `href` of its card.
Here is for which links that is the URL the page means.
-/

namespace StockMonitoring.Infrastructure.Providers

open StockMonitoring.Foundation StockMonitoring.Foundation.UriReference

/-! ## The search page -/

/-- The URL of the search page, once the browser is there. -/
def searchPage (site : Storefront) (keyword : String) : Option (List Char) :=
  (WebUrl.parseUrl (searchUrl site keyword).toList).map WebUrl.Url.serialize

/-- Up to its query it is what the adapter has written. -/
theorem searchPage_eq : ∀ site ∈ storefronts, ∀ keyword : String,
    ∃ tail, searchPage site keyword = some (searchHead site ++ '?' :: tail) := by
  have hheads : ∀ site ∈ storefronts,
      (WebUrl.parseHead (searchHead site)).map WebUrl.joinHead = some (searchHead site) := by
    decide
  intro site hsite keyword
  obtain ⟨parts, hparts, hjoin⟩ := Option.map_eq_some_iff.mp (hheads site hsite)
  have hparse := (searchFrame site hsite).parseUrl_eq hparts keyword.toList
  rw [searchPage, toList_searchUrl, hparse, Option.map_some, WebUrl.Url.serialize]
  dsimp only
  rw [hjoin]
  exact ⟨_, rfl⟩

/-- Scheme and authority of an adapter's `BASE_URL`. -/
def siteOrigin (site : Storefront) : List Char := (parse site.baseUrl.toList).origin

/-- The path of an adapter's `BASE_URL`. -/
def sitePath (site : Storefront) : List Char := (parse site.baseUrl.toList).path

/-- The path of the search page up to its last slash. -/
def searchDirectory (site : Storefront) : List Char :=
  (parse (searchHead site)).path.rdropWhile (· ≠ '/')

/-- How a search page lies to the `BASE_URL` of its adapter. -/
structure Lies (site : Storefront) : Prop where
  base : site.baseUrl.toList = siteOrigin site ++ sitePath site
  origin : (parse (searchHead site)).origin = siteOrigin site
  below : (sitePath site).length < (parse (searchHead site)).path.length
  scheme : (((parse (searchHead site)).scheme.map (· ++ [':'])).getD []).length <
    (siteOrigin site).length
  beside : searchDirectory site = sitePath site ++ ['/'] ∨
    sitePath site = [] ∧ (searchDirectory site).head? = some '/'

theorem lies : ∀ site ∈ storefronts, Lies site := by
  have hbase : ∀ site ∈ storefronts, site.baseUrl.toList = siteOrigin site ++ sitePath site := by
    decide
  have horigin : ∀ site ∈ storefronts, (parse (searchHead site)).origin = siteOrigin site := by
    decide
  have hbelow : ∀ site ∈ storefronts,
      (sitePath site).length < (parse (searchHead site)).path.length := by decide
  have hscheme : ∀ site ∈ storefronts,
      (((parse (searchHead site)).scheme.map (· ++ [':'])).getD []).length <
        (siteOrigin site).length := by decide
  have hbeside : ∀ site ∈ storefronts, searchDirectory site = sitePath site ++ ['/'] ∨
      sitePath site = [] ∧ (searchDirectory site).head? = some '/' := by decide
  intro site hsite
  exact ⟨hbase site hsite, horigin site hsite, hbelow site hsite, hscheme site hsite,
    hbeside site hsite⟩

/-! ## The links -/

/-- A link that survives being put behind `BASE_URL`: that has no path, and the link is a path
from the root without dot segments. -/
def LinkSafe (site : Storefront) (href : List Char) : Prop :=
  sitePath site = [] ∧ RootRelative href ∧ hasDots (pathPart href) = false

instance (site : Storefront) (href : List Char) : Decidable (LinkSafe site href) :=
  inferInstanceAs (Decidable (_ ∧ _))

theorem toList_resultUrl (site : Storefront) (href : String) :
    (resultUrl site href).toList = site.baseUrl.toList ++ href.toList := by
  simp only [resultUrl, String.toList_append]
  rfl

section Links

variable {site : Storefront} {page href : List Char}

/-- A page with the origin and the path of the search page. -/
structure IsSearchPage (site : Storefront) (page : List Char) : Prop where
  origin : (parse page).origin = (parse (searchHead site)).origin
  scheme : (parse page).scheme = (parse (searchHead site)).scheme
  path : (parse page).path = (parse (searchHead site)).path

theorem isSearchPage (hsite : site ∈ storefronts) (tail : List Char) :
    IsSearchPage site (searchHead site ++ '?' :: tail) := by
  have hheads : ∀ site ∈ storefronts, (searchHead site).any endsPath = false := by decide
  have hhead : ∀ char ∈ searchHead site, endsPath char = false := fun char hchar =>
    Bool.eq_false_iff.mpr (List.any_eq_false.mp (hheads site hsite) char hchar)
  have hparse := parse_append_query hhead tail
  refine ⟨?_, ?_, ?_⟩
  · rw [hparse]
    rfl
  · rw [hparse]
  · rw [hparse]

/-- The path of a reference beside a search page. -/
theorem merge_eq (hpage : IsSearchPage site page) (hlies : Lies site) (path : List Char) :
    merge (parse page) path = searchDirectory site ++ path := by
  have hne : (parse page).path ≠ [] := by
    intro hnil
    have hbelow := hlies.below
    rw [← hpage.path, hnil, List.length_nil] at hbelow
    omega
  rw [merge, if_neg (fun hempty => hne hempty.2), hpage.path]
  rfl

/-- A link with a scheme or an authority goes elsewhere: what it means is too short. -/
theorem resultUrl_ne_of_origin (hpage : IsSearchPage site page) (hlies : Lies site)
    (horigin : (parse href).scheme.isSome = true ∨ (parse href).authority.isSome = true) :
    site.baseUrl.toList ++ href ≠ resolve page href := by
  intro heq
  have hlength := congrArg List.length heq
  have hscheme := hlies.scheme
  rw [hlies.base, List.length_append, List.length_append] at hlength
  cases hnone : (parse href).scheme with
  | some name =>
      have hle := @length_resolve_absolute page href (by rw [hnone]; rfl)
      omega
  | none =>
      rw [hnone] at horigin
      have hsome : (parse href).authority.isSome = true := by simpa using horigin
      have hle := @length_resolve_network page href hnone hsome
      rw [hpage.scheme] at hle
      omega

/-- A link without a path stays on the search page: what it means is too long. -/
theorem resultUrl_ne_of_same (hpage : IsSearchPage site page) (hlies : Lies site)
    (hscheme : (parse href).scheme = none) (hauthority : (parse href).authority = none)
    (hpath : (parse href).path = []) :
    site.baseUrl.toList ++ href ≠ resolve page href := by
  intro heq
  have hlength := congrArg List.length heq
  have hle := @length_resolve_same page href hscheme hauthority hpath
  have hbelow := hlies.below
  rw [hpage.origin, hlies.origin, hpage.path] at hle
  rw [hlies.base, List.length_append, List.length_append] at hlength
  omega

/-- A path beside the search page is not below `BASE_URL`: a slash is missing. -/
theorem resultUrl_ne_of_beside (hpage : IsSearchPage site page) (hlies : Lies site)
    (hscheme : (parse href).scheme = none) (hauthority : (parse href).authority = none)
    (hne : (parse href).path ≠ []) (hpath : (parse href).path.head? ≠ some '/') :
    site.baseUrl.toList ++ href ≠ resolve page href := by
  intro heq
  obtain ⟨_, _, hwhole⟩ := parse_relative hscheme hauthority
  rw [resolve_pathRelative hscheme hauthority hne hpath, hpage.origin, hlies.origin,
    merge_eq hpage hlies, hlies.base, List.append_assoc] at heq
  have hrest := List.append_cancel_left heq
  nth_rewrite 1 [← hwhole] at hrest
  rw [← List.append_assoc] at hrest
  have hpaths := List.append_cancel_right hrest
  rcases hlies.beside with hdirectory | ⟨hempty, hroot⟩
  · -- The directory has one slash more than `BASE_URL`, and no dot segment makes up for it.
    have hweight := weight_removeDotSegments_le (searchDirectory site ++ (parse href).path)
    rw [← hpaths, hdirectory, weight_append, weight_append, weight_append] at hweight
    have hslash : weight ['/'] = -1 := by decide
    omega
  · obtain ⟨others, hothers⟩ : ∃ others, searchDirectory site = '/' :: others := by
      cases hdirectory : searchDirectory site with
      | nil =>
          rw [hdirectory] at hroot
          cases hroot
      | cons first others =>
          rw [hdirectory] at hroot
          exact ⟨others, by rw [Option.some.inj hroot]⟩
    obtain ⟨left, hleft⟩ := removeDotSegments_slash (others ++ (parse href).path)
    rw [hempty, List.nil_append, hothers, List.cons_append, hleft] at hpaths
    rw [hpaths] at hpath
    exact hpath rfl

/-- A path from the root is below `BASE_URL` if that is the root, and nothing is removed. -/
theorem resultUrl_eq_iff_of_root (hpage : IsSearchPage site page) (hlies : Lies site)
    (hscheme : (parse href).scheme = none) (hauthority : (parse href).authority = none)
    (hpath : (parse href).path.head? = some '/') :
    site.baseUrl.toList ++ href = resolve page href ↔
      sitePath site = [] ∧ hasDots (parse href).path = false := by
  obtain ⟨_, _, hwhole⟩ := parse_relative hscheme hauthority
  have hsplit : site.baseUrl.toList ++ href =
      siteOrigin site ++ ((sitePath site ++ (parse href).path) ++ (parse href).tail) := by
    rw [hlies.base, List.append_assoc, List.append_assoc, hwhole]
  rw [resolve_rootRelative hscheme hauthority hpath, hpage.origin, hlies.origin, hsplit,
    List.append_cancel_left_eq, List.append_cancel_right_eq, ← removeDotSegments_eq_self_iff]
  constructor
  · intro heq
    have hlength := congrArg List.length heq
    have hle := length_removeDotSegments_le (parse href).path
    rw [List.length_append] at hlength
    have hempty : sitePath site = [] := List.eq_nil_of_length_eq_zero (by omega)
    rw [hempty, List.nil_append] at heq
    exact ⟨hempty, heq.symm⟩
  · rintro ⟨hempty, hself⟩
    rw [hempty, hself, List.nil_append]

/-- Every form of a link. -/
theorem resultUrl_eq_iff (hpage : IsSearchPage site page) (hlies : Lies site) :
    site.baseUrl.toList ++ href = resolve page href ↔ LinkSafe site href := by
  by_cases horigin : (parse href).scheme.isSome = true ∨ (parse href).authority.isSome = true
  · refine iff_of_false (resultUrl_ne_of_origin hpage hlies horigin) fun hsafe => ?_
    obtain ⟨hscheme, hauthority⟩ := parse_of_rootRelative hsafe.2.1
    rw [hscheme, hauthority] at horigin
    simp at horigin
  · simp only [not_or, Bool.not_eq_true, Option.isSome_eq_false_iff,
      Option.isNone_iff_eq_none] at horigin
    obtain ⟨hscheme, hauthority⟩ := horigin
    obtain ⟨hpathPart, hslashes, hwhole⟩ := parse_relative hscheme hauthority
    have hstart : RootRelative href → (parse href).path.head? = some '/' := by
      intro hroot
      rw [hpathPart, pathPart]
      cases href with
      | nil => cases hroot.1
      | cons first rest =>
          rw [Option.some.inj hroot.1]
          simp [endsPath]
    by_cases hempty : (parse href).path = []
    · refine iff_of_false (resultUrl_ne_of_same hpage hlies hscheme hauthority hempty)
        fun hsafe => ?_
      have hroot := hstart hsafe.2.1
      rw [hempty] at hroot
      cases hroot
    · by_cases hpath : (parse href).path.head? = some '/'
      · have hroot : RootRelative href := by
          refine ⟨?_, hslashes⟩
          rw [← hwhole, List.head?_append_of_ne_nil _ hempty]
          exact hpath
        rw [resultUrl_eq_iff_of_root hpage hlies hscheme hauthority hpath, hpathPart, LinkSafe]
        simp [hroot]
      · exact iff_of_false (resultUrl_ne_of_beside hpage hlies hscheme hauthority hempty hpath)
          fun hsafe => hpath (hstart hsafe.2.1)

end Links

/-- The URL that a product is got from is the one its link means exactly if the adapter's
`BASE_URL` has no path and the link is a path from the root without dot segments. -/
theorem links_resolve_iff : ∀ site ∈ storefronts, ∀ keyword href : String,
    ∃ page, searchPage site keyword = some page ∧
      ((resultUrl site href).toList = resolve page href.toList ↔
        LinkSafe site href.toList) := by
  intro site hsite keyword href
  obtain ⟨tail, hpage⟩ := searchPage_eq site hsite keyword
  refine ⟨_, hpage, ?_⟩
  rw [toList_resultUrl]
  exact resultUrl_eq_iff (isSearchPage hsite tail) (lies site hsite)

/-- On BigBasket, whose search page lies in a directory. -/
theorem bigBasket_link_resolves :
    bigBasketStorefront ∈ storefronts ∧ ∃ page, searchPage bigBasketStorefront "atta" = some page ∧
      (resultUrl bigBasketStorefront "/pd/40/atta?nc=1").toList =
        resolve page "/pd/40/atta?nc=1".toList := by
  obtain ⟨page, hpage, hiff⟩ :=
    links_resolve_iff bigBasketStorefront (by decide) "atta" "/pd/40/atta?nc=1"
  exact ⟨by decide, page, hpage, hiff.mpr (by decide)⟩

/-- On Instamart a link from the root gets the path of `BASE_URL` twice. -/
theorem instamart_link_doubled :
    searchPage instamartStorefront "tea" =
        some "https://www.swiggy.com/instamart/search?query=tea".toList ∧
      resolve "https://www.swiggy.com/instamart/search?query=tea".toList
          "/instamart/item/1".toList = "https://www.swiggy.com/instamart/item/1".toList ∧
      resultUrl instamartStorefront "/instamart/item/1" =
        "https://www.swiggy.com/instamart/instamart/item/1" ∧
      (resultUrl instamartStorefront "/instamart/item/1").toList ≠
        resolve "https://www.swiggy.com/instamart/search?query=tea".toList
          "/instamart/item/1".toList := by
  have hpath : (parse "/instamart/item/1".toList).path = "/instamart/item/1".toList := by decide
  have hself : removeDotSegments "/instamart/item/1".toList = "/instamart/item/1".toList :=
    removeDotSegments_eq_self_iff.mpr (by decide)
  have hresolved : resolve "https://www.swiggy.com/instamart/search?query=tea".toList
      "/instamart/item/1".toList = "https://www.swiggy.com/instamart/item/1".toList := by
    rw [resolve_rootRelative (by decide) (by decide) (by decide), hpath, hself]
    decide
  refine ⟨by decide, hresolved, by decide, ?_⟩
  rw [hresolved]
  decide

end StockMonitoring.Infrastructure.Providers
