import StockMonitoring.Foundation.Digits
import Mathlib.Data.List.DropRight

set_option autoImplicit false

/-!
# Foundation: references and their resolution

RFC 3986: the components of a reference (appendix B), `remove_dot_segments` (5.2.4), the
resolution of a reference against a base (5.2.2, strict) and its recomposition (5.3).

`removeDotSegments` leaves a path alone exactly if the path has no dot segment
(`removeDotSegments_eq_self_iff`), and it is never longer than the path.
-/

namespace StockMonitoring.Foundation.UriReference

/-! ## Components -/

structure Reference where
  scheme : Option (List Char)
  authority : Option (List Char)
  path : List Char
  query : Option (List Char)
  fragment : Option (List Char)
  deriving DecidableEq

/-- What ends a scheme. -/
def endsScheme (char : Char) : Bool := [':', '/', '?', '#'].contains char

/-- What ends an authority. -/
def endsAuthority (char : Char) : Bool := ['/', '?', '#'].contains char

/-- What ends a path. -/
def endsPath (char : Char) : Bool := ['?', '#'].contains char

/-- What ends a query. -/
def endsQuery (char : Char) : Bool := char == '#'

/-- A component with a mark before it, and the rest. -/
def parseMarked (mark : Char) (ends : Char → Bool) : List Char → Option (List Char) × List Char
  | [] => (none, [])
  | char :: rest =>
      if char = mark then
        (some (rest.takeWhile fun char => !ends char), rest.dropWhile fun char => !ends char)
      else (none, char :: rest)

/-- `([^:/?#]+):`, if the text begins so, and the rest. -/
def parseScheme (text : List Char) : Option (List Char) × List Char :=
  let name := text.takeWhile fun char => !endsScheme char
  match text.dropWhile fun char => !endsScheme char with
  | [] => (none, text)
  | char :: rest => if char = ':' ∧ name ≠ [] then (some name, rest) else (none, text)

/-- `//([^/?#]*)`, if the text begins so, and the rest. -/
def parseAuthority : List Char → Option (List Char) × List Char
  | '/' :: '/' :: rest =>
      (some (rest.takeWhile fun char => !endsAuthority char),
        rest.dropWhile fun char => !endsAuthority char)
  | text => (none, text)

/-- The components of a reference. -/
def parse (text : List Char) : Reference :=
  let afterScheme := parseScheme text
  let afterAuthority := parseAuthority afterScheme.2
  let afterPath := afterAuthority.2.dropWhile fun char => !endsPath char
  let afterQuery := parseMarked '?' endsQuery afterPath
  { scheme := afterScheme.1
    authority := afterAuthority.1
    path := afterAuthority.2.takeWhile fun char => !endsPath char
    query := afterQuery.1
    fragment := (parseMarked '#' (fun _ => false) afterQuery.2).1 }

/-- A component with its mark. -/
def marked (mark : List Char) (component : Option (List Char)) : List Char :=
  (component.map (mark ++ ·)).getD []

/-- Query and fragment with their marks. -/
def Reference.tail (reference : Reference) : List Char :=
  marked ['?'] reference.query ++ marked ['#'] reference.fragment

/-- Scheme and authority with their marks. -/
def Reference.origin (reference : Reference) : List Char :=
  (reference.scheme.map (· ++ [':'])).getD [] ++ marked ['/', '/'] reference.authority

/-- Component recomposition. -/
def recompose (reference : Reference) : List Char :=
  reference.origin ++ (reference.path ++ reference.tail)

/-! ## Dot segments -/

/-- A text up to its first slash. -/
def segment (text : List Char) : List Char := text.takeWhile (· ≠ '/')

/-- A text from its first slash on. -/
def afterSegment (text : List Char) : List Char := text.dropWhile (· ≠ '/')

/-- Take the last segment, and the slash before it, from an output buffer. -/
def dropSegment (output : List Char) : List Char := (output.rdropWhile (· ≠ '/')).dropLast

/-- What is left of an input that begins with a slash and a dot segment. -/
def slashOr (rest : List Char) : List Char := if rest = [] then ['/'] else rest

theorem segment_append (text : List Char) : segment text ++ afterSegment text = text :=
  List.takeWhile_append_dropWhile

theorem length_segment_add (text : List Char) :
    (segment text).length + (afterSegment text).length = text.length := by
  rw [← List.length_append, segment_append]

theorem length_slashOr_le (rest : List Char) : (slashOr rest).length ≤ rest.length + 1 := by
  unfold slashOr
  split
  · simp
  · omega

/-- The loop of `remove_dot_segments`, from the input buffer to the output buffer.  The comments
name the steps of the algorithm. -/
def removeDots : List Char → List Char → List Char
  | [], output => output
  | char :: rest, output =>
      -- B
      if char = '/' ∧ segment rest = ['.'] then removeDots (slashOr (afterSegment rest)) output
      -- C
      else if char = '/' ∧ segment rest = ['.', '.'] then
        removeDots (slashOr (afterSegment rest)) (dropSegment output)
      -- A and D
      else if char :: segment rest = ['.'] ∨ char :: segment rest = ['.', '.'] then
        removeDots ((afterSegment rest).drop 1) output
      -- E
      else removeDots (afterSegment rest) (output ++ char :: segment rest)
termination_by input => input.length
decreasing_by
  all_goals
    have hrest := length_segment_add rest
    have hslash := length_slashOr_le (afterSegment rest)
    simp only [List.length_cons, List.length_drop]
  · rename_i hdot
    simp only [hdot.2, List.length_singleton] at hrest
    omega
  · rename_i hdots
    simp only [hdots.2, List.length_cons, List.length_nil] at hrest
    omega
  · omega
  · omega

/-- `remove_dot_segments` -/
def removeDotSegments (path : List Char) : List Char := removeDots path []

/-- A dot segment. -/
def isDots (text : List Char) : Bool := text == ['.'] || text == ['.', '.']

/-- The path has a dot segment. -/
def hasDots (path : List Char) : Bool := (path.splitOn '/').any isDots

theorem not_mem_segment (text : List Char) : '/' ∉ segment text := by
  intro hmem
  have hne := List.mem_takeWhile_imp hmem
  simp at hne

/-- What follows a segment begins with a slash. -/
theorem afterSegment_cases (text : List Char) :
    afterSegment text = [] ∨ ∃ rest, afterSegment text = '/' :: rest := by
  cases hafter : afterSegment text with
  | nil => exact Or.inl rfl
  | cons first rest =>
      have hstops := stopsAt_dropWhile (fun char : Char => decide (char ≠ '/')) text
      rw [← afterSegment, hafter] at hstops
      have hfirst : first = '/' := by simpa using hstops first rfl
      exact Or.inr ⟨rest, by rw [hfirst]⟩

theorem hasDots_slash (rest : List Char) : hasDots ('/' :: rest) = hasDots rest := by
  have hnot : '/' ∉ ([] : List Char) := by simp
  have hsplit := List.splitOn_append_cons_self_of_not_mem hnot rest
  rw [List.nil_append] at hsplit
  rw [hasDots, hsplit, List.any_cons]
  rfl

/-- Look at the first segment, then at the others. -/
theorem hasDots_eq (text : List Char) :
    hasDots text = (isDots (segment text) || hasDots (afterSegment text)) := by
  have hnot := not_mem_segment text
  have hjoin := segment_append text
  rcases afterSegment_cases text with hafter | ⟨rest, hafter⟩
  · rw [hafter, List.append_nil] at hjoin
    rw [hafter, hjoin, hasDots, List.splitOn_eq_singleton (hjoin ▸ hnot)]
    simp [hasDots, isDots]
  · rw [hafter, hasDots_slash]
    have hsplit : text.splitOn '/' = segment text :: rest.splitOn '/' := by
      rw [← List.splitOn_append_cons_self_of_not_mem hnot, ← hafter, hjoin]
    rw [hasDots, hsplit, List.any_cons]
    rfl

theorem hasDots_of_slash {rest : List Char} (hdots : isDots (segment rest) = true) :
    hasDots ('/' :: rest) = true := by
  rw [hasDots_slash, hasDots_eq, hdots, Bool.true_or]

theorem ne_slash_of_dots {char : Char} {others : List Char}
    (hdots : char :: others = ['.'] ∨ char :: others = ['.', '.']) : char ≠ '/' := by
  rcases hdots with hone | htwo
  · rw [(List.cons.inj hone).1]
    decide
  · rw [(List.cons.inj htwo).1]
    decide

theorem hasDots_of_dots {char : Char} {rest : List Char}
    (hdots : char :: segment rest = ['.'] ∨ char :: segment rest = ['.', '.']) :
    hasDots (char :: rest) = true := by
  have hsegment : segment (char :: rest) = char :: segment rest := by
    simp [segment, ne_slash_of_dots hdots]
  have hisDots : isDots (segment (char :: rest)) = true := by
    rw [hsegment]
    rcases hdots with hone | htwo
    · rw [hone]
      rfl
    · rw [htwo]
      rfl
  rw [hasDots_eq, hisDots, Bool.true_or]

/-- A segment that is moved to the output is no dot segment. -/
theorem hasDots_of_moved {char : Char} {rest : List Char}
    (hone : ¬(char = '/' ∧ segment rest = ['.']))
    (htwo : ¬(char = '/' ∧ segment rest = ['.', '.']))
    (hdots : ¬(char :: segment rest = ['.'] ∨ char :: segment rest = ['.', '.'])) :
    hasDots (char :: rest) = hasDots (afterSegment rest) := by
  by_cases hchar : char = '/'
  · have hnot : isDots (segment rest) = false := by
      simp only [hchar, true_and] at hone htwo
      simp [isDots, hone, htwo]
    rw [hchar, hasDots_slash, hasDots_eq, hnot, Bool.false_or]
  · have hsegment : segment (char :: rest) = char :: segment rest := by simp [segment, hchar]
    have hafter : afterSegment (char :: rest) = afterSegment rest := by simp [afterSegment, hchar]
    have hnot : isDots (char :: segment rest) = false := by
      rw [not_or] at hdots
      simp only [isDots, Bool.or_eq_false_iff, beq_eq_false_iff_ne]
      exact hdots
    rw [hasDots_eq, hsegment, hafter, hnot, Bool.false_or]

theorem length_dropSegment_le (output : List Char) :
    (dropSegment output).length ≤ output.length :=
  ((List.dropLast_prefix _).trans (List.rdropWhile_prefix _ output)).length_le

/-- A path gets no longer, and shorter if it has a dot segment. -/
theorem length_removeDots_le (input output : List Char) :
    (removeDots input output).length + (if hasDots input then 1 else 0) ≤
      output.length + input.length := by
  induction input, output using removeDots.induct with
  | case1 output => simp [removeDots, hasDots, isDots]
  | case2 char rest output hdot ih =>
      have hslash := length_slashOr_le (afterSegment rest)
      have hrest := length_segment_add rest
      rw [hdot.2, List.length_singleton] at hrest
      rw [removeDots, if_pos hdot, List.length_cons]
      split <;> omega
  | case3 char rest output hdot hdots ih =>
      have hslash := length_slashOr_le (afterSegment rest)
      have hdropped := length_dropSegment_le output
      have hrest := length_segment_add rest
      rw [hdots.2, List.length_cons, List.length_singleton] at hrest
      rw [removeDots, if_neg hdot, if_pos hdots, List.length_cons]
      split <;> omega
  | case4 char rest output hdot hdots hfirst ih =>
      have hrest := length_segment_add rest
      rw [removeDots, if_neg hdot, if_neg hdots, if_pos hfirst, List.length_cons]
      rw [List.length_drop] at ih
      split <;> omega
  | case5 char rest output hdot hdots hfirst ih =>
      have hrest := length_segment_add rest
      rw [removeDots, if_neg hdot, if_neg hdots, if_neg hfirst, List.length_cons,
        hasDots_of_moved hdot hdots hfirst]
      rw [List.length_append, List.length_cons] at ih
      omega

/-- A path without dot segments goes to the output as it is. -/
theorem removeDots_of_not_hasDots (input output : List Char) (hnone : hasDots input = false) :
    removeDots input output = output ++ input := by
  induction input, output using removeDots.induct with
  | case1 output => rw [removeDots, List.append_nil]
  | case2 char rest output hdot ih =>
      rw [hdot.1, hasDots_of_slash (by rw [hdot.2]; rfl)] at hnone
      cases hnone
  | case3 char rest output hdot hdots ih =>
      rw [hdots.1, hasDots_of_slash (by rw [hdots.2]; rfl)] at hnone
      cases hnone
  | case4 char rest output hdot hdots hfirst ih =>
      rw [hasDots_of_dots hfirst] at hnone
      cases hnone
  | case5 char rest output hdot hdots hfirst ih =>
      rw [hasDots_of_moved hdot hdots hfirst] at hnone
      rw [removeDots, if_neg hdot, if_neg hdots, if_neg hfirst, ih hnone, List.append_assoc,
        List.cons_append, segment_append]

theorem length_removeDotSegments_le (path : List Char) :
    (removeDotSegments path).length ≤ path.length := by
  have hle := length_removeDots_le path []
  rw [List.length_nil] at hle
  unfold removeDotSegments
  omega

theorem removeDotSegments_eq_self_iff {path : List Char} :
    removeDotSegments path = path ↔ hasDots path = false := by
  constructor
  · intro hself
    have hle := length_removeDots_le path []
    rw [← removeDotSegments, hself] at hle
    by_contra hdots
    rw [Bool.not_eq_false] at hdots
    simp only [hdots, if_true, List.length_nil] at hle
    omega
  · intro hnone
    exact removeDots_of_not_hasDots path [] hnone

/-! ## What a path keeps -/

/-- A buffer that is empty or begins with a slash. -/
def Rooted (text : List Char) : Prop := text = [] ∨ ∃ rest, text = '/' :: rest

theorem rooted_of_prefix {start text : List Char} (hbegins : start <+: text)
    (htext : Rooted text) : Rooted start := by
  cases start with
  | nil => exact Or.inl rfl
  | cons first start =>
      rcases htext with rfl | ⟨rest, rfl⟩
      · simp at hbegins
      · rw [List.cons_prefix_cons] at hbegins
        exact Or.inr ⟨start, by rw [hbegins.1]⟩

theorem rooted_dropSegment {output : List Char} (houtput : Rooted output) :
    Rooted (dropSegment output) :=
  rooted_of_prefix ((List.dropLast_prefix _).trans (List.rdropWhile_prefix _ output)) houtput

theorem slashOr_cases (text : List Char) : ∃ rest, slashOr (afterSegment text) = '/' :: rest := by
  rcases afterSegment_cases text with hafter | ⟨rest, hafter⟩
  · exact ⟨[], by simp [slashOr, hafter]⟩
  · exact ⟨rest, by simp [slashOr, hafter]⟩

/-- A path that begins with a slash keeps it. -/
theorem removeDots_rooted (input output : List Char) (houtput : Rooted output)
    (hinput : Rooted input) (hne : input ≠ [] ∨ output ≠ []) :
    ∃ rest, removeDots input output = '/' :: rest := by
  induction input, output using removeDots.induct with
  | case1 output =>
      rw [removeDots]
      rcases houtput with rfl | hrest
      · simp at hne
      · exact hrest
  | case2 char rest output hdot ih =>
      obtain ⟨left, hleft⟩ := slashOr_cases rest
      rw [removeDots, if_pos hdot]
      exact ih houtput (Or.inr ⟨left, hleft⟩) (Or.inl (by simp [hleft]))
  | case3 char rest output hdot hdots ih =>
      obtain ⟨left, hleft⟩ := slashOr_cases rest
      rw [removeDots, if_neg hdot, if_pos hdots]
      exact ih (rooted_dropSegment houtput) (Or.inr ⟨left, hleft⟩) (Or.inl (by simp [hleft]))
  | case4 char rest output hdot hdots hfirst ih =>
      rcases hinput with hnil | ⟨others, hcons⟩
      · cases hnil
      · cases hcons
        simp at hfirst
  | case5 char rest output hdot hdots hfirst ih =>
      rw [removeDots, if_neg hdot, if_neg hdots, if_neg hfirst]
      refine ih ?_ (afterSegment_cases rest) (Or.inr (by simp))
      rcases hinput with hnil | ⟨others, hcons⟩
      · cases hnil
      · cases hcons
        rcases houtput with rfl | ⟨before, rfl⟩
        · exact Or.inr ⟨_, rfl⟩
        · exact Or.inr ⟨_, rfl⟩

theorem removeDotSegments_slash (rest : List Char) :
    ∃ others, removeDotSegments ('/' :: rest) = '/' :: others :=
  removeDots_rooted _ _ (Or.inl rfl) (Or.inr ⟨rest, rfl⟩) (Or.inl (by simp))

/-- The characters of the segments, less the slashes. -/
def weight (text : List Char) : Int := text.length - 2 * text.count '/'

@[simp] theorem weight_nil : weight [] = 0 := rfl

theorem weight_append (first second : List Char) :
    weight (first ++ second) = weight first + weight second := by
  simp only [weight, List.length_append, List.count_append]
  omega

theorem weight_slash (rest : List Char) : weight ('/' :: rest) = weight rest - 1 := by
  simp only [weight, List.length_cons, List.count_cons_self]
  omega

theorem weight_cons {char : Char} (hchar : char ≠ '/') (rest : List Char) :
    weight (char :: rest) = weight rest + 1 := by
  rw [weight, weight, List.length_cons, List.count_cons_of_ne hchar]
  omega

theorem weight_of_not_mem {text : List Char} (hnot : '/' ∉ text) : weight text = text.length := by
  simp [weight, List.count_eq_zero.mpr hnot]

theorem weight_segment_add (text : List Char) :
    ((segment text).length : Int) + weight (afterSegment text) = weight text := by
  rw [← weight_of_not_mem (not_mem_segment text), ← weight_append, segment_append]

theorem weight_slashOr_le (text : List Char) :
    weight (slashOr (afterSegment text)) ≤ weight (afterSegment text) := by
  unfold slashOr
  split
  · rename_i hnil
    rw [hnil]
    decide
  · omega

theorem weight_drop_afterSegment_le (text : List Char) :
    weight ((afterSegment text).drop 1) ≤ weight (afterSegment text) + 1 := by
  rcases afterSegment_cases text with hafter | ⟨rest, hafter⟩
  · simp [hafter]
  · rw [hafter, weight_slash, List.drop_one, List.tail_cons]
    omega

theorem weight_reverse (text : List Char) : weight text.reverse = weight text := by
  simp [weight]

/-- Taking a segment away takes one slash at most. -/
theorem weight_dropSegment_le (output : List Char) :
    weight (dropSegment output) ≤ weight output + 1 := by
  have hreverse : dropSegment output = ((afterSegment output.reverse).drop 1).reverse := by
    rw [dropSegment, List.rdropWhile, List.dropLast_reverse, List.drop_one, afterSegment]
  have hdrop := weight_drop_afterSegment_le output.reverse
  have hrest := weight_segment_add output.reverse
  rw [weight_reverse] at hrest
  rw [hreverse, weight_reverse]
  omega

/-- No dot segment weighs less than what is lost with it. -/
theorem weight_removeDots_le (input output : List Char) :
    weight (removeDots input output) ≤ weight output + weight input := by
  induction input, output using removeDots.induct with
  | case1 output => simp [removeDots]
  | case2 char rest output hdot ih =>
      have hslash := weight_slashOr_le rest
      have hrest := weight_segment_add rest
      rw [hdot.2, List.length_singleton] at hrest
      rw [removeDots, if_pos hdot, hdot.1, weight_slash]
      omega
  | case3 char rest output hdot hdots ih =>
      have hslash := weight_slashOr_le rest
      have hdropped := weight_dropSegment_le output
      have hrest := weight_segment_add rest
      rw [hdots.2, List.length_cons, List.length_singleton] at hrest
      rw [removeDots, if_neg hdot, if_pos hdots, hdots.1, weight_slash]
      omega
  | case4 char rest output hdot hdots hfirst ih =>
      have hdropped := weight_drop_afterSegment_le rest
      have hrest := weight_segment_add rest
      rw [removeDots, if_neg hdot, if_neg hdots, if_pos hfirst,
        weight_cons (ne_slash_of_dots hfirst)]
      omega
  | case5 char rest output hdot hdots hfirst ih =>
      have hsplit : char :: rest = (char :: segment rest) ++ afterSegment rest := by
        rw [List.cons_append, segment_append]
      rw [removeDots, if_neg hdot, if_neg hdots, if_neg hfirst, hsplit, weight_append]
      rw [weight_append] at ih
      omega

theorem weight_removeDotSegments_le (path : List Char) :
    weight (removeDotSegments path) ≤ weight path := by
  have hle := weight_removeDots_le path []
  rw [weight_nil] at hle
  unfold removeDotSegments
  omega

/-! ## Resolution -/

/-- The path of a base up to its last slash, and the path of the reference. -/
def merge (base : Reference) (path : List Char) : List Char :=
  if base.authority.isSome ∧ base.path = [] then '/' :: path
  else base.path.rdropWhile (· ≠ '/') ++ path

/-- The target of a reference. -/
def transform (base reference : Reference) : Reference :=
  if reference.scheme.isSome then
    { reference with path := removeDotSegments reference.path }
  else if reference.authority.isSome then
    { reference with scheme := base.scheme, path := removeDotSegments reference.path }
  else if reference.path = [] then
    { base with
      query := if reference.query.isSome then reference.query else base.query
      fragment := reference.fragment }
  else if reference.path.head? = some '/' then
    { base with
      path := removeDotSegments reference.path
      query := reference.query
      fragment := reference.fragment }
  else
    { base with
      path := removeDotSegments (merge base reference.path)
      query := reference.query
      fragment := reference.fragment }

/-- What a reference on a page refers to. -/
def resolve (page reference : List Char) : List Char :=
  recompose (transform (parse page) (parse reference))

/-! ## Parsing and recomposing -/

theorem takeWhile_append_stop {stops : Char → Bool} {stop : Char} (hstop : stops stop = true)
    (head tail : List Char) :
    (head ++ stop :: tail).takeWhile (fun char => !stops char) =
      head.takeWhile fun char => !stops char := by
  induction head with
  | nil => simp [hstop]
  | cons first rest ih => simp [List.takeWhile_cons, ih]

theorem dropWhile_append_stop {stops : Char → Bool} {stop : Char} (hstop : stops stop = true)
    (head tail : List Char) :
    (head ++ stop :: tail).dropWhile (fun char => !stops char) =
      (head.dropWhile fun char => !stops char) ++ stop :: tail := by
  induction head with
  | nil => simp [hstop]
  | cons first rest ih =>
      simp only [List.cons_append, List.dropWhile_cons, ih]
      split <;> rfl

/-- What follows a scheme does not change it. -/
theorem parseScheme_append {stop : Char} (hstop : endsScheme stop = true) (hcolon : stop ≠ ':')
    (head tail : List Char) :
    parseScheme (head ++ stop :: tail) =
      ((parseScheme head).1, (parseScheme head).2 ++ stop :: tail) := by
  unfold parseScheme
  rw [takeWhile_append_stop hstop, dropWhile_append_stop hstop]
  cases hrest : head.dropWhile fun char => !endsScheme char with
  | nil => simp [hcolon]
  | cons first rest =>
      simp only [List.cons_append]
      split <;> rfl

theorem parseAuthority_slashes (rest : List Char) :
    parseAuthority ('/' :: '/' :: rest) =
      (some (rest.takeWhile fun char => !endsAuthority char),
        rest.dropWhile fun char => !endsAuthority char) := rfl

theorem parseAuthority_of_not_slashes {text : List Char} (hnot : ¬['/', '/'] <+: text) :
    parseAuthority text = (none, text) := by
  unfold parseAuthority
  split
  · exact absurd ⟨_, rfl⟩ hnot
  · rfl

theorem parseAuthority_append {stop : Char} (hstop : endsAuthority stop = true)
    (hslash : stop ≠ '/') (head tail : List Char) :
    parseAuthority (head ++ stop :: tail) =
      ((parseAuthority head).1, (parseAuthority head).2 ++ stop :: tail) := by
  by_cases hhead : ['/', '/'] <+: head
  · obtain ⟨rest, rfl⟩ := hhead
    change parseAuthority ('/' :: '/' :: (rest ++ stop :: tail)) = _
    rw [parseAuthority_slashes, takeWhile_append_stop hstop, dropWhile_append_stop hstop]
    rfl
  · have hwhole : ¬['/', '/'] <+: head ++ stop :: tail := by
      intro hbegins
      match head with
      | [] =>
          rw [List.nil_append, List.cons_prefix_cons] at hbegins
          exact hslash hbegins.1.symm
      | [first] =>
          rw [List.singleton_append, List.cons_prefix_cons, List.cons_prefix_cons] at hbegins
          exact hslash hbegins.2.1.symm
      | first :: second :: rest =>
          rw [List.cons_append, List.cons_append, List.cons_prefix_cons,
            List.cons_prefix_cons] at hbegins
          refine hhead ?_
          rw [← hbegins.1, ← hbegins.2.1]
          exact ⟨rest, rfl⟩
    rw [parseAuthority_of_not_slashes hhead, parseAuthority_of_not_slashes hwhole]

/-- A text has no scheme, or it begins with one and a colon. -/
theorem parseScheme_cases (text : List Char) :
    parseScheme text = (none, text) ∨
      ∃ name rest, text = name ++ ':' :: rest ∧ name ≠ [] ∧
        parseScheme text = (some name, rest) := by
  have hjoin := List.takeWhile_append_dropWhile (p := fun char => !endsScheme char) (l := text)
  cases hdrop : text.dropWhile fun char => !endsScheme char with
  | nil =>
      refine Or.inl ?_
      simp only [parseScheme, hdrop]
  | cons char rest =>
      by_cases hcolon : char = ':' ∧ (text.takeWhile fun char => !endsScheme char) ≠ []
      · refine Or.inr ⟨_, rest, ?_, hcolon.2, ?_⟩
        · rw [← hcolon.1, ← hdrop, hjoin]
        · simp only [parseScheme, hdrop]
          exact if_pos hcolon
      · refine Or.inl ?_
        simp only [parseScheme, hdrop]
        exact if_neg hcolon

theorem parseScheme_suffix (text : List Char) : (parseScheme text).2 <:+ text := by
  rcases parseScheme_cases text with hnone | ⟨name, rest, hsplit, _, hsome⟩
  · exact ⟨[], by rw [hnone, List.nil_append]⟩
  · rw [hsome, hsplit]
    exact ⟨name ++ [':'], by simp⟩

theorem parseAuthority_suffix (text : List Char) : (parseAuthority text).2 <:+ text := by
  unfold parseAuthority
  split
  · rename_i rest
    have hrest := List.dropWhile_suffix (fun char => !endsAuthority char) (l := rest)
    exact hrest.trans ((List.suffix_cons '/' rest).trans (List.suffix_cons '/' _))
  · exact List.suffix_refl text

/-- A query and what follows it do not change what is before. -/
theorem parse_append_query {head : List Char} (hhead : ∀ char ∈ head, endsPath char = false)
    (tail : List Char) :
    parse (head ++ '?' :: tail) =
      { parse head with
        query := some (tail.takeWhile fun char => !endsQuery char)
        fragment := (parseMarked '#' (fun _ => false)
          (tail.dropWhile fun char => !endsQuery char)).1 } := by
  have hpath : (parseAuthority (parseScheme head).2).2.dropWhile (fun char => !endsPath char) =
      [] := by
    rw [List.dropWhile_eq_nil_iff]
    intro char hchar
    have hsuffix := (parseAuthority_suffix _).trans (parseScheme_suffix head)
    have hmem : char ∈ head := hsuffix.subset hchar
    simp [hhead char hmem]
  have hstop : endsPath '?' = true := by decide
  have hquestion : '?' ≠ ':' ∧ '?' ≠ '/' := by decide
  have hscheme : endsScheme '?' = true := by decide
  have hauthority : endsAuthority '?' = true := by decide
  simp only [parse, parseScheme_append hscheme hquestion.1,
    parseAuthority_append hauthority hquestion.2, takeWhile_append_stop hstop,
    dropWhile_append_stop hstop, hpath, List.nil_append]
  rfl

theorem scheme_append (text : List Char) :
    ((parseScheme text).1.map (· ++ [':'])).getD [] ++ (parseScheme text).2 = text := by
  rcases parseScheme_cases text with hnone | ⟨name, rest, hsplit, _, hsome⟩
  · rw [hnone]
    rfl
  · rw [hsome, hsplit]
    simp

theorem authority_append (text : List Char) :
    marked ['/', '/'] (parseAuthority text).1 ++ (parseAuthority text).2 = text := by
  by_cases htext : ['/', '/'] <+: text
  · obtain ⟨rest, rfl⟩ := htext
    change marked ['/', '/'] (parseAuthority ('/' :: '/' :: rest)).1 ++ _ = _
    simp [parseAuthority_slashes, marked]
  · rw [parseAuthority_of_not_slashes htext]
    rfl

theorem parseMarked_mark (mark : Char) (ends : Char → Bool) (rest : List Char) :
    parseMarked mark ends (mark :: rest) =
      (some (rest.takeWhile fun char => !ends char), rest.dropWhile fun char => !ends char) :=
  if_pos rfl

theorem parseMarked_of_ne {mark char : Char} {ends : Char → Bool} (hne : char ≠ mark)
    {rest : List Char} : parseMarked mark ends (char :: rest) = (none, char :: rest) :=
  if_neg hne

theorem marked_append (mark : Char) (ends : Char → Bool) (text : List Char) :
    marked [mark] (parseMarked mark ends text).1 ++ (parseMarked mark ends text).2 = text := by
  cases text with
  | nil => rfl
  | cons char rest =>
      by_cases hmark : char = mark
      · simp [hmark, parseMarked_mark, marked]
      · rw [parseMarked_of_ne hmark]
        rfl

/-- What a component leaves begins with what ends it. -/
theorem dropWhile_cases (ends : Char → Bool) (text : List Char) :
    (text.dropWhile fun char => !ends char) = [] ∨
      ∃ stop rest, (text.dropWhile fun char => !ends char) = stop :: rest ∧ ends stop = true := by
  have hstops := stopsAt_dropWhile (fun char => !ends char) text
  cases hrest : text.dropWhile fun char => !ends char with
  | nil => exact Or.inl rfl
  | cons stop rest =>
      rw [hrest] at hstops
      exact Or.inr ⟨stop, rest, rfl, by simpa using hstops stop rfl⟩

/-- After path and query only a fragment is left. -/
theorem fragment_append {text : List Char}
    (htext : text = [] ∨ ∃ stop rest, text = stop :: rest ∧ endsQuery stop = true) :
    marked ['#'] (parseMarked '#' (fun _ => false) text).1 = text := by
  rcases htext with rfl | ⟨stop, rest, rfl, hstop⟩
  · rfl
  · have hmark : stop = '#' := by simpa [endsQuery] using hstop
    have hrest : rest.takeWhile (fun _ => !false) = rest := by simp
    rw [hmark, parseMarked_mark, hrest]
    rfl

theorem tail_append {text : List Char}
    (htext : text = [] ∨ ∃ stop rest, text = stop :: rest ∧ endsPath stop = true) :
    marked ['?'] (parseMarked '?' endsQuery text).1 ++
      marked ['#'] (parseMarked '#' (fun _ => false) (parseMarked '?' endsQuery text).2).1 =
        text := by
  have hquery := marked_append '?' endsQuery text
  rw [fragment_append, hquery]
  rcases htext with rfl | ⟨stop, rest, rfl, hstop⟩
  · exact Or.inl rfl
  · by_cases hmark : stop = '?'
    · rw [hmark, parseMarked_mark]
      exact dropWhile_cases endsQuery rest
    · rw [parseMarked_of_ne hmark]
      refine Or.inr ⟨stop, rest, rfl, ?_⟩
      simpa [endsPath, endsQuery, hmark] using hstop

/-- A reference is what its components recompose to. -/
theorem recompose_parse (text : List Char) : recompose (parse text) = text := by
  have hpath := List.takeWhile_append_dropWhile (p := fun char => !endsPath char)
    (l := (parseAuthority (parseScheme text).2).2)
  have htail := tail_append (dropWhile_cases endsPath (parseAuthority (parseScheme text).2).2)
  rw [recompose, Reference.origin, Reference.tail]
  simp only [parse]
  rw [htail, hpath, List.append_assoc, authority_append, scheme_append]

/-! ## The forms of a reference -/

/-- `/…`, but not `//…`. -/
def RootRelative (reference : List Char) : Prop :=
  reference.head? = some '/' ∧ ¬['/', '/'] <+: reference

instance (reference : List Char) : Decidable (RootRelative reference) :=
  inferInstanceAs (Decidable (_ ∧ _))

/-- The path of a reference that has neither scheme nor authority. -/
def pathPart (reference : List Char) : List Char := reference.takeWhile fun char => !endsPath char

section Forms

variable {page reference : List Char}

theorem parse_scheme (text : List Char) : (parse text).scheme = (parseScheme text).1 := rfl

theorem parse_authority (text : List Char) :
    (parse text).authority = (parseAuthority (parseScheme text).2).1 := rfl

theorem parse_relative (hscheme : (parse reference).scheme = none)
    (hauthority : (parse reference).authority = none) :
    (parse reference).path = pathPart reference ∧ ¬['/', '/'] <+: reference ∧
      (parse reference).path ++ (parse reference).tail = reference := by
  have hrest : parseScheme reference = (none, reference) := by
    rcases parseScheme_cases reference with hnone | ⟨name, rest, _, _, hsome⟩
    · exact hnone
    · rw [parse_scheme, hsome] at hscheme
      cases hscheme
  have hslashes : ¬['/', '/'] <+: reference := by
    rintro ⟨rest, hbegins⟩
    rw [parse_authority, hrest, ← hbegins] at hauthority
    cases hauthority
  refine ⟨?_, hslashes, ?_⟩
  · simp only [parse, hrest, parseAuthority_of_not_slashes hslashes]
    rfl
  · have hwhole := recompose_parse reference
    rw [recompose, Reference.origin, hscheme, hauthority] at hwhole
    exact hwhole

theorem parse_of_rootRelative (hroot : RootRelative reference) :
    (parse reference).scheme = none ∧ (parse reference).authority = none := by
  have hrest : parseScheme reference = (none, reference) := by
    obtain ⟨rest, rfl⟩ : ∃ rest, reference = '/' :: rest := by
      cases reference with
      | nil => cases hroot.1
      | cons first rest => exact ⟨rest, by rw [Option.some.inj hroot.1]⟩
    simp [parseScheme, endsScheme]
  rw [parse_scheme, parse_authority, hrest, parseAuthority_of_not_slashes hroot.2]
  exact ⟨rfl, rfl⟩

/-- A reference with a scheme. -/
theorem length_resolve_absolute (hscheme : (parse reference).scheme.isSome = true) :
    (resolve page reference).length ≤ reference.length := by
  have hpath := length_removeDotSegments_le (parse reference).path
  have hwhole := congrArg List.length (recompose_parse reference)
  rw [resolve, transform, if_pos hscheme]
  simp only [recompose, Reference.origin, Reference.tail, List.length_append] at hwhole ⊢
  omega

/-- A reference with an authority only gets the scheme of the page. -/
theorem length_resolve_network (hscheme : (parse reference).scheme = none)
    (hauthority : (parse reference).authority.isSome = true) :
    (resolve page reference).length ≤
      (((parse page).scheme.map (· ++ [':'])).getD []).length + reference.length := by
  have hpath := length_removeDotSegments_le (parse reference).path
  have hwhole := congrArg List.length (recompose_parse reference)
  rw [resolve, transform, if_neg (by simp [hscheme]), if_pos hauthority]
  simp only [recompose, Reference.origin, Reference.tail, List.length_append] at hwhole ⊢
  omega

/-- A reference without a path stays on the page. -/
theorem length_resolve_same (hscheme : (parse reference).scheme = none)
    (hauthority : (parse reference).authority = none) (hpath : (parse reference).path = []) :
    (parse page).origin.length + (parse page).path.length + reference.length ≤
      (resolve page reference).length := by
  obtain ⟨_, _, hwhole⟩ := parse_relative hscheme hauthority
  rw [hpath, List.nil_append] at hwhole
  have hlength := congrArg List.length hwhole
  rw [resolve, transform, if_neg (by simp [hscheme]), if_neg (by simp [hauthority]),
    if_pos hpath]
  simp only [recompose, Reference.origin, Reference.tail, List.length_append] at hlength ⊢
  cases hquery : (parse reference).query with
  | none =>
      simp only [hquery] at hlength
      simp [marked] at hlength ⊢
      omega
  | some query =>
      simp only [hquery] at hlength
      simp [marked] at hlength ⊢
      omega

/-- A reference to the root. -/
theorem resolve_rootRelative (hscheme : (parse reference).scheme = none)
    (hauthority : (parse reference).authority = none)
    (hpath : (parse reference).path.head? = some '/') :
    resolve page reference = (parse page).origin ++
      (removeDotSegments (parse reference).path ++ (parse reference).tail) := by
  have hne : (parse reference).path ≠ [] := by
    intro hnil
    rw [hnil] at hpath
    cases hpath
  rw [resolve, transform, if_neg (by simp [hscheme]), if_neg (by simp [hauthority]),
    if_neg hne, if_pos hpath]
  rfl

/-- A reference to a path beside the page. -/
theorem resolve_pathRelative (hscheme : (parse reference).scheme = none)
    (hauthority : (parse reference).authority = none) (hne : (parse reference).path ≠ [])
    (hpath : (parse reference).path.head? ≠ some '/') :
    resolve page reference = (parse page).origin ++
      (removeDotSegments (merge (parse page) (parse reference).path) ++
        (parse reference).tail) := by
  rw [resolve, transform, if_neg (by simp [hscheme]), if_neg (by simp [hauthority]),
    if_neg hne, if_neg hpath]
  rfl

end Forms

end StockMonitoring.Foundation.UriReference
