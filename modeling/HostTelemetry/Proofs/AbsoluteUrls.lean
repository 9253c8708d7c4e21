import HostTelemetry.Proofs.AcceptedSettings
import HostTelemetry.Proofs.TextEnds

/-!
# Urls that keep their scheme

A base that is not blank completes to a url: the base, behind a scheme if it has none of its own,
without the slashes at its end, then one slash, then the path without the slashes at its start. The
slashes of a scheme are at the end of the base as well where nothing but slashes stands behind them.
They are taken off then, and the url is left without a scheme; every other url keeps the one it has.
-/

namespace HostTelemetry

open Text (trim)

/-- A base behind a scheme, its own one or the secure one. -/
def withScheme (base : List Char) : List Char :=
  if hasWebScheme base then base else httpsScheme ++ base

/-- What stands behind the scheme of a base; all of a base that has none. -/
def behindScheme (base : List Char) : List Char :=
  if httpScheme.isPrefixOf base then base.drop httpScheme.length
  else if httpsScheme.isPrefixOf base then base.drop httpsScheme.length
  else base

/-- Whether a base names anything besides its scheme. -/
def NamesSite (base : List Char) : Prop := ∃ c ∈ behindScheme base, c ≠ '/'

instance (base : List Char) : Decidable (NamesSite base) :=
  List.decidableBEx (· ≠ '/') (behindScheme base)

/-- A url of a base without the slashes at its end, exactly one slash, and a path without the
slashes at its start. -/
def JoinedBySlash (base path url : List Char) : Prop :=
  ∃ site slashes slashes' rest, base = site ++ slashes ∧ path = slashes' ++ rest ∧
    (∀ c ∈ slashes ++ slashes', c = '/') ∧ site.getLast? ≠ some '/' ∧ rest.head? ≠ some '/' ∧
    url = site ++ '/' :: rest

def isSlash (c : Char) : Bool := c == '/'

theorem isSlash_iff {c : Char} : isSlash c = true ↔ c = '/' := beq_iff_eq

theorem isSlash_eq_false {c : Char} : isSlash c = false ↔ c ≠ '/' := beq_eq_false_iff_ne

theorem withoutLastSlashes_eq_rdropWhile (s : List Char) :
    withoutLastSlashes s = s.rdropWhile isSlash := by
  induction s with
  | nil => rfl
  | cons c r ih =>
    rw [Text.rdropWhile_cons, ← ih, withoutLastSlashes]
    cases withoutLastSlashes r <;> simp [isSlash]

theorem completeUrl?_eq_some {base path url : List Char} (h : completeUrl? base path = some url) :
    url = (withScheme (trim base)).rdropWhile isSlash ++ '/' :: path.dropWhile isSlash := by
  unfold completeUrl? at h
  dsimp only at h
  split at h
  · cases h
  · rw [Option.some.injEq, withoutLastSlashes_eq_rdropWhile] at h
    exact h.symm

theorem joinedBySlash (base path : List Char) :
    JoinedBySlash base path (base.rdropWhile isSlash ++ '/' :: path.dropWhile isSlash) := by
  obtain ⟨hlast, slashes, hbase, hslashes⟩ :=
    Text.rdropWhile_eq_iff.1 (Eq.refl (base.rdropWhile isSlash))
  obtain ⟨hhead, slashes', hpath, hslashes'⟩ :=
    Text.dropWhile_eq_iff.1 (Eq.refl (path.dropWhile isSlash))
  refine ⟨_, slashes, slashes', _, hbase, hpath, fun c hc => ?_, fun h => ?_, fun h => ?_, rfl⟩
  · rcases List.mem_append.1 hc with hc | hc
    · exact isSlash_iff.1 (hslashes c hc)
    · exact isSlash_iff.1 (hslashes' c hc)
  · exact isSlash_eq_false.1 (hlast '/' h) rfl
  · exact isSlash_eq_false.1 (hhead '/' h) rfl

/-! ### Schemes -/

theorem exists_scheme (base : List Char) :
    ∃ scheme ∈ [httpScheme, httpsScheme], withScheme base = scheme ++ behindScheme base := by
  unfold withScheme behindScheme hasWebScheme
  by_cases hhttp : httpScheme.isPrefixOf base = true
  · obtain ⟨rest, rfl⟩ := List.isPrefixOf_iff_prefix.1 hhttp
    exact ⟨httpScheme, by simp, by simp⟩
  · by_cases hhttps : httpsScheme.isPrefixOf base = true
    · obtain ⟨rest, rfl⟩ := List.isPrefixOf_iff_prefix.1 hhttps
      exact ⟨httpsScheme, by simp, by simp [hhttp]⟩
    · exact ⟨httpsScheme, by simp, by simp [hhttp, hhttps]⟩

theorem hasWebScheme_append {scheme : List Char} (h : scheme ∈ [httpScheme, httpsScheme])
    (rest : List Char) : hasWebScheme (scheme ++ rest) = true := by
  have hself : scheme.isPrefixOf (scheme ++ rest) = true :=
    List.isPrefixOf_iff_prefix.2 (List.prefix_append scheme rest)
  rw [List.mem_cons, List.mem_singleton] at h
  rcases h with rfl | rfl
  · rw [hasWebScheme, hself, Bool.true_or]
  · rw [hasWebScheme, hself, Bool.or_true]

/-- A scheme without its slashes, and one slash behind it. -/
theorem hasWebScheme_of_cut {scheme rest : List Char} (h : scheme ∈ [httpScheme, httpsScheme])
    (hrest : rest.head? ≠ some '/') :
    hasWebScheme (scheme.rdropWhile isSlash ++ '/' :: rest) = false := by
  have hslash : ['/'].isPrefixOf rest = false := by
    cases rest with
    | nil => rfl
    | cons c r =>
      rw [List.head?_cons, Ne, Option.some.injEq] at hrest
      rw [List.isPrefixOf, beq_eq_false_iff_ne.2 (Ne.symm hrest), Bool.false_and]
  rw [List.mem_cons, List.mem_singleton] at h
  rcases h with rfl | rfl
  · show (['/'].isPrefixOf rest || false) = false
    rw [hslash, Bool.false_or]
  · exact hslash

theorem rdropWhile_of_namesSite {base scheme : List Char} (h : NamesSite base) :
    (scheme ++ behindScheme base).rdropWhile isSlash =
      scheme ++ (behindScheme base).rdropWhile isSlash := by
  obtain ⟨hlast, slashes, hsplit, hslashes⟩ :=
    Text.rdropWhile_eq_iff.1 (Eq.refl ((behindScheme base).rdropWhile isSlash))
  have hne : (behindScheme base).rdropWhile isSlash ≠ [] := by
    obtain ⟨c, hc, hother⟩ := h
    exact fun hnil => hother (isSlash_iff.1 (List.rdropWhile_eq_nil_iff.1 hnil c hc))
  refine Text.rdropWhile_eq_iff.2 ⟨fun c hc => hlast c ?_, slashes, ?_, hslashes⟩
  · rwa [List.getLast?_append_of_ne_nil _ hne] at hc
  · rw [List.append_assoc, ← hsplit]

theorem rdropWhile_of_not_namesSite {base scheme : List Char} (h : ¬NamesSite base) :
    (scheme ++ behindScheme base).rdropWhile isSlash = scheme.rdropWhile isSlash := by
  have hall : ∀ c ∈ behindScheme base, isSlash c = true := fun c hc =>
    isSlash_iff.2 (not_not.1 fun hother => h ⟨c, hc, hother⟩)
  obtain ⟨hlast, slashes, hsplit, hslashes⟩ :=
    Text.rdropWhile_eq_iff.1 (Eq.refl (scheme.rdropWhile isSlash))
  refine Text.rdropWhile_eq_iff.2 ⟨hlast, slashes ++ behindScheme base, ?_, ?_⟩
  · rw [← List.append_assoc, ← hsplit]
  · exact List.forall_mem_append.2 ⟨hslashes, hall⟩

theorem hasWebScheme_completed_iff (base path : List Char) :
    hasWebScheme ((withScheme base).rdropWhile isSlash ++ '/' :: path.dropWhile isSlash) = true ↔
      NamesSite base := by
  obtain ⟨scheme, hscheme, hwith⟩ := exists_scheme base
  rw [hwith]
  by_cases hsite : NamesSite base
  · rw [rdropWhile_of_namesSite hsite, List.append_assoc]
    exact iff_of_true (hasWebScheme_append hscheme _) hsite
  · rw [rdropWhile_of_not_namesSite hsite, hasWebScheme_of_cut hscheme]
    · exact iff_of_false Bool.false_ne_true hsite
    · intro h
      exact isSlash_eq_false.1 ((Text.dropWhile_eq_iff.1 rfl).1 '/' h) rfl

/-! ### Completed urls -/

theorem completeUrlText?_eq_some {base path url : String}
    (h : completeUrlText? base path = some url) :
    JoinedBySlash (withScheme (trim base.toList)) path.toList url.toList ∧
      (hasWebScheme url.toList = true ↔ NamesSite (trim base.toList)) := by
  obtain ⟨joined, hjoined, rfl⟩ := Option.map_eq_some_iff.1 h
  rw [String.toList_ofList, completeUrl?_eq_some hjoined]
  exact ⟨joinedBySlash _ _, hasWebScheme_completed_iff _ _⟩

/-- Just a blank base has no url. A url is the base behind a scheme and the path, with exactly one
slash in between, and it keeps the scheme just where the base names anything besides a scheme and
slashes. That goes for the address of all settings that are accepted, too. -/
theorem completed_url_keeps_scheme_iff (base path : String) :
    (completeUrlText? base path = none ↔ Text.isBlankText base = true) ∧
    (∀ url, completeUrlText? base path = some url →
      JoinedBySlash (withScheme (trim base.toList)) path.toList url.toList ∧
        (hasWebScheme url.toList = true ↔ NamesSite (trim base.toList))) ∧
    ∀ (vars : Settings.Variables) (kernelHost : Option String) (s : Settings),
      Settings.load vars kernelHost = .ok s → s.url = base →
      ∃ url, completeUrlText? base path = some url ∧
        (hasWebScheme url.toList = true ↔ NamesSite (trim base.toList)) := by
  refine ⟨?_, fun url => completeUrlText?_eq_some, fun vars kernelHost s hload hbase => ?_⟩
  · rw [← not_iff_not, ← Ne, ← Option.isSome_iff_ne_none, isSome_completeUrlText?_iff,
      Bool.not_eq_true]
  · have hblank := (Settings.load_eq_ok_iff.1 hload).1.isBlankText_url
    rw [hbase] at hblank
    obtain ⟨url, hurl⟩ :=
      Option.isSome_iff_exists.1 ((isSome_completeUrlText?_iff base path).2 hblank)
    exact ⟨url, hurl, (completeUrlText?_eq_some hurl).2⟩

/-- Variables that give a url and name an account. -/
def accountVariables (url : String) : Settings.Variables := fun name =>
  if name = "IF_URL" then some url else if name ∈ Settings.accountNames then some "x" else none

/-- A base that names a site under many slashes, and accepted settings whose url names none. -/
theorem completed_url_keeps_scheme_iff_slashes :
    completeUrlText? " a//b// " "//c" = some "https://a//b/c" ∧
      hasWebScheme "https://a//b/c".toList = true ∧
      ∃ s endpoint, Settings.load (accountVariables "http:///") none = .ok s ∧
        completeUrlText? s.url receiverPath = some endpoint ∧
        endpoint = "http:/api/v2/metric-data-receive" ∧ hasWebScheme endpoint.toList = false := by
  obtain ⟨-, hurl, -⟩ := completed_url_keeps_scheme_iff " a//b// " "//c"
  obtain ⟨-, -, hsettings⟩ := completed_url_keeps_scheme_iff "http:///" receiverPath
  have hsite : completeUrlText? " a//b// " "//c" = some "https://a//b/c" := by decide +kernel
  obtain ⟨s, hload, hs⟩ : ∃ s, Settings.load (accountVariables "http:///") none = .ok s ∧
      s.url = "http:///" := ⟨_, rfl, rfl⟩
  obtain ⟨endpoint, hendpoint, hiff⟩ := hsettings _ none s hload hs
  have hdamaged : endpoint = "http:/api/v2/metric-data-receive" :=
    Option.some.inj (hendpoint.symm.trans (by decide +kernel))
  refine ⟨hsite, (hurl _ hsite).2.2 (by decide), s, endpoint, hload, ?_, hdamaged, ?_⟩
  · rw [hs, hendpoint]
  · rw [← Bool.not_eq_true, hiff]
    decide

/-- A base that is nothing but a scheme loses one of its slashes. -/
theorem not_completed_url_keeps_scheme :
    ¬∀ base path url : String, completeUrlText? base path = some url →
      hasWebScheme url.toList = true := by
  intro h
  have hscheme := h "http://" "/api" "http:/api" (by decide +kernel)
  revert hscheme
  decide

end HostTelemetry
