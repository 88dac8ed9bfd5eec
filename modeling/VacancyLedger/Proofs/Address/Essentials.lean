/-
Which addresses have the same canonical form.

The essentials of an address are what tells its page from others: scheme, host, a port of its
own, path, the parameters that matter and a fragment that names a page.  Where a text is
resolved to an address with a host, the parts that are read of its canonical form are the
essentials of the text, one for one; so the canonical forms of two such texts are equal exactly
if their essentials are, and a canonical form is its own.

A text that is resolved to an address without a host may have a canonical form too, because of
a path that starts with two slashes.  What comes first in that path is never put into lower case
and keeps a port that is not needed, so such a form need not be canonical.
-/
import VacancyLedger.Proofs.Address.Canonical
import VacancyLedger.Proofs.Text.Blank

namespace VacancyLedger.Address

variable {raw base raw' base' : String} {url : List Char} {p q : Parts} {port : Option Nat}

/-! ### Essentials -/

/-- What tells one page of the web from another. -/
structure Essentials where
  scheme : List Char
  host : List Char
  /-- None if it is the one the scheme has anyway. -/
  port : Option Nat
  path : List Char
  parameters : List (List Char)
  /-- Empty unless it names a page of its own. -/
  fragment : List Char
  deriving DecidableEq

/-- The essentials of an address that was cut into parts. -/
def Parts.essentials (p : Parts) (port : Option Nat) : Essentials where
  scheme := p.scheme
  host := p.host
  port := essentialPort p.scheme port
  path := if p.path.isEmpty then ['/'] else p.path
  parameters := essentialParts p.query
  fragment := essentialFragment p.fragment

/-- The essentials of a text that is resolved against a base, if that gives an address with a
host. -/
def essentials? (raw base : String) : Option Essentials :=
  match resolve (Text.trim raw.toList) base.toList with
  | .ok (p, port) => if p.host.isEmpty then none else some (p.essentials port)
  | .error _ => none

/-- The parts of an address are the essentials, one for one, and nothing else. -/
structure Essentials.AreAllOf (t : Essentials) (q : Parts) : Prop where
  scheme : q.scheme = t.scheme
  host : q.host = t.host
  port : q.port = .ok t.port
  path : q.path = t.path
  parameters : (Text.splitAll '&' q.query).filter (!·.isEmpty) = t.parameters
  query : q.query = List.intercalate ['&'] t.parameters
  fragment : q.fragment = t.fragment
  user : '@' ∉ q.authority

theorem essentials?_some {t : Essentials} (h : essentials? raw base = some t) :
    ∃ p port, resolve (Text.trim raw.toList) base.toList = .ok (p, port) ∧ p.host ≠ [] ∧
      t = p.essentials port := by
  unfold essentials? at h
  split at h
  · next p port hresolve =>
      split at h
      · cases h
      · next hhost => exact ⟨p, port, hresolve, by simpa using hhost, (Option.some.inj h).symm⟩
  · cases h

/-- The parts that essentials are written as. -/
def Essentials.parts (t : Essentials) : Parts where
  scheme := t.scheme
  authority := bracketed t.host ++ portText t.port
  path := t.path
  query := List.intercalate ['&'] t.parameters
  fragment := t.fragment

theorem parts_essentials (p : Parts) (port : Option Nat) :
    (p.essentials port).parts = p.canonical port := by
  simp only [Essentials.parts, Parts.essentials, ← essentialAuthority_eq]
  rfl

theorem canonical_ne_nil (h : canonical raw base ≠ "") :
    canonicalChars raw.toList base.toList ≠ [] := by
  intro hnil
  exact h (by rw [canonical, hnil])

/-- **A canonical form is read as the essentials of the text it was made of.** -/
theorem canonical_shows {t : Essentials} (h : essentials? raw base = some t)
    (hne : canonical raw base ≠ "") :
    split (canonical raw base).toList = .ok t.parts ∧ t.AreAllOf t.parts ∧
      canonical raw base = String.ofList (unsplit t.parts) := by
  obtain ⟨p, port, hresolve, hhost, rfl⟩ := essentials?_some h
  obtain ⟨p', port', q, hresolve', hread⟩ := exists_isReadOf (canonical_ne_nil hne)
  obtain ⟨rfl, rfl⟩ : p = p' ∧ port = port' := by simpa [hresolve] using hresolve'
  obtain ⟨⟨url, hurl⟩, hport⟩ := resolve_ok hresolve
  obtain rfl := hread.eq_canonical hhost
  have hauthority := hostAndPort_canonical hurl hport hread.brackets
  rw [parts_essentials, canonical, String.toList_ofList]
  refine ⟨hread.split_eq, ⟨rfl, hauthority.1, hauthority.2, rfl, ?_, rfl, rfl, ?_⟩, ?_⟩
  · exact filter_splitAll_essentialQuery p.query
  · rw [canonical_authority]
    exact user_not_mem_written (isHost_of_split hurl) _
  · rw [hread.unsplit_eq]

theorem Essentials.AreAllOf.eq {t u : Essentials} (h : t.AreAllOf q) (h' : u.AreAllOf q) :
    t = u := by
  have hport : t.port = u.port := Except.ok.inj (h.port.symm.trans h'.port)
  cases t
  cases u
  simp only [Essentials.mk.injEq]
  exact ⟨h.scheme.symm.trans h'.scheme, h.host.symm.trans h'.host, hport,
    h.path.symm.trans h'.path, h.parameters.symm.trans h'.parameters,
    h.fragment.symm.trans h'.fragment⟩

/-- **Canonical forms are equal exactly if the essentials are, and show them one for one.** -/
theorem canonical_eq_iff_essentials_eq {t t' : Essentials} (h : essentials? raw base = some t)
    (h' : essentials? raw' base' = some t') (hne : canonical raw base ≠ "")
    (hne' : canonical raw' base' ≠ "") :
    (∃ q, split (canonical raw base).toList = .ok q ∧ t.AreAllOf q) ∧
      (canonical raw base = canonical raw' base' ↔ t = t') := by
  obtain ⟨hsplit, hall, hwritten⟩ := canonical_shows h hne
  obtain ⟨hsplit', hall', hwritten'⟩ := canonical_shows h' hne'
  refine ⟨⟨t.parts, hsplit, hall⟩, fun heq => ?_, ?_⟩
  · rw [heq, hsplit'] at hsplit
    rw [Except.ok.inj hsplit] at hall'
    exact hall.eq hall'
  · rintro rfl
    rw [hwritten, hwritten']

/-- Letter case of the host, a user, the port of the scheme, a tracking parameter, an empty part of
the query and a place in the page do not matter; letter case of the path does. -/
theorem canonical_eq_iff_essentials_eq_jobs :
    canonical "HTTPS://user@Acme.Example:443/Jobs?b=2&ref=x&&a=1#apply" "" =
        canonical "/Jobs?utm_medium=mail&b=2&a=1" "https://acme.example/careers" ∧
      canonical "HTTPS://user@Acme.Example:443/Jobs?b=2&ref=x&&a=1#apply" "" ≠
        canonical "/jobs?utm_medium=mail&b=2&a=1" "https://acme.example/careers" := by
  have hupper : essentials? "HTTPS://user@Acme.Example:443/Jobs?b=2&ref=x&&a=1#apply" "" =
      some ⟨"https".toList, "acme.example".toList, none, "/Jobs".toList,
        ["b=2".toList, "a=1".toList], []⟩ := by decide +kernel
  have hrelative : essentials? "/Jobs?utm_medium=mail&b=2&a=1" "https://acme.example/careers" =
      some ⟨"https".toList, "acme.example".toList, none, "/Jobs".toList,
        ["b=2".toList, "a=1".toList], []⟩ := by decide +kernel
  have hlower : essentials? "/jobs?utm_medium=mail&b=2&a=1" "https://acme.example/careers" =
      some ⟨"https".toList, "acme.example".toList, none, "/jobs".toList,
        ["b=2".toList, "a=1".toList], []⟩ := by decide +kernel
  have hsame := canonical_eq_iff_essentials_eq hupper hrelative (by decide +kernel)
    (by decide +kernel)
  have hother := canonical_eq_iff_essentials_eq hupper hlower (by decide +kernel)
    (by decide +kernel)
  exact ⟨hsame.2.mpr rfl, fun heq => absurd (hother.2.mp heq) (by decide)⟩

/-! ### Where a visitor came from -/

/-- The addresses are the same but for parameters that tell where a visitor came from, and for empty
parts of their queries. -/
structure Parts.TracksLike (p q : Parts) : Prop where
  same : q = { p with query := q.query }
  parameters : essentialParts q.query = essentialParts p.query

/-- Two texts that are addresses which are the same but for where a visitor came from, or that are
both none. -/
inductive TrackAlike (raw base raw' base' : String) : Prop
  | found {p q : Parts} {port port' : Option Nat} (hraw : Text.trim raw.toList ≠ [])
      (hraw' : Text.trim raw'.toList ≠ [])
      (h : resolve (Text.trim raw.toList) base.toList = .ok (p, port))
      (h' : resolve (Text.trim raw'.toList) base'.toList = .ok (q, port'))
      (htracks : p.TracksLike q)
  | refused {x x' : Error} (h : resolve (Text.trim raw.toList) base.toList = .error x)
      (h' : resolve (Text.trim raw'.toList) base'.toList = .error x')
  | blank (h : Text.trim raw.toList = []) (h' : Text.trim raw'.toList = [])

theorem Parts.TracksLike.canonical_eq (h : p.TracksLike q) (port : Option Nat) :
    q.canonical port = p.canonical port := by
  rw [h.same]
  simp only [Parts.canonical, essentialQuery, h.parameters]
  rfl

theorem Parts.TracksLike.port_eq (h : p.TracksLike q) : q.port = p.port := by
  rw [h.same]
  rfl

/-- Where a visitor came from does not matter. -/
theorem TrackAlike.canonical_eq (h : TrackAlike raw base raw' base') :
    canonical raw' base' = canonical raw base := by
  unfold canonical canonicalChars
  cases h with
  | @found p q port port' hraw hraw' hresolve hresolve' htracks =>
      have hport := htracks.port_eq
      rw [(resolve_ok hresolve).2, (resolve_ok hresolve').2] at hport
      simp only [hresolve, hresolve', List.isEmpty_iff, hraw, hraw', if_false,
        Except.ok.inj hport, htracks.canonical_eq]
  | refused hresolve hresolve' => simp [hresolve, hresolve']
  | blank hraw hraw' => simp [hraw, hraw']

example : TrackAlike "https://acme.example/jobs/1?utm_source=mail" ""
    "/jobs/1?ref=board" "https://acme.example/careers" :=
  .found (p := ⟨"https".toList, "acme.example".toList, "/jobs/1".toList,
      "utm_source=mail".toList, []⟩) (by decide) (by decide) rfl rfl ⟨rfl, by decide +kernel⟩

/-! ### The canonical form of a canonical form -/

/-- An address of the web from which everything was taken that may be: no part of the query is
empty or tells where a visitor came from, and a fragment names a page of its own. -/
structure Parts.IsTidy (q : Parts) : Prop where
  scheme : q.scheme = "http".toList ∨ q.scheme = "https".toList
  host : q.host ≠ []
  query : q.query ≠ [] → ∀ part ∈ Text.splitAll '&' q.query, part ≠ [] ∧ isTracking part = false
  fragment : q.fragment = [] ∨ ∃ c ∈ q.fragment.head?, c = '/' ∨ c = '!'

/-- The authority is the host, and a port that is not the one of the scheme; the path starts at
the root. -/
def Parts.IsStated (q : Parts) (port : Option Nat) : Prop :=
  q.authority = essentialAuthority q.scheme q.host port ∧ ∃ path, q.path = '/' :: path

theorem IsReadOf.isTidy (h : IsReadOf url p port q) : q.IsTidy where
  scheme := (isWeb_iff.mp h.web_parts).1
  host := (isWeb_iff.mp h.web_parts).2.1
  query := by
    intro hne part hpart
    rw [h.query_eq] at hne hpart
    have hparts : essentialParts p.query ≠ [] := by
      intro hnil
      exact hne (by rw [essentialQuery, hnil]; rfl)
    rw [essentialQuery, Text.splitAll_intercalate hparts fun part hpart =>
      (of_mem_essentialParts hpart).1] at hpart
    exact (of_mem_essentialParts hpart).2
  fragment := by
    rw [h.fragment_eq]
    unfold essentialFragment
    split
    · next hroute =>
        rcases hroute with hslash | hbang
        · exact .inr ⟨'/', hslash, .inl rfl⟩
        · exact .inr ⟨'!', hbang, .inr rfl⟩
    · exact .inl rfl

theorem IsReadOf.ne_nil (h : IsReadOf url p port q) : url ≠ [] := by
  rintro rfl
  have hnothing : split [] = .ok ⟨[], [], [], [], []⟩ := rfl
  have hq := Except.ok.inj (hnothing.symm.trans h.split_eq)
  exact h.isTidy.host (by rw [← hq]; rfl)

/-- What is made of a canonical form is made of the parts that are read of it. -/
theorem IsReadOf.canonicalChars_eq {again : Option Nat} (h : IsReadOf url p port q)
    (hport : q.port = .ok again) :
    canonicalChars url [] =
      if isWebChars (unsplit (q.canonical again)) then unsplit (q.canonical again) else [] := by
  have hresolve : resolve url [] = .ok (q, again) := by
    rw [resolve_eq]
    simp only [List.isEmpty_nil, if_true]
    change (split url >>= fun parts => parts.port >>= fun port => .ok (parts, port)) = _
    rw [h.split_eq]
    change (q.port >>= fun port => .ok (q, port)) = _
    rw [hport]
    rfl
  unfold canonicalChars
  rw [Text.trim_of_no_blank h.free]
  simp [h.ne_nil, hresolve]

/-- The canonical form of a canonical form is the same exactly if its parts are. -/
theorem IsReadOf.canonicalChars_eq_self_iff {again : Option Nat} (h : IsReadOf url p port q)
    (hport : q.port = .ok again) : canonicalChars url [] = url ↔ q.canonical again = q := by
  rw [h.canonicalChars_eq hport]
  constructor
  · intro heq
    have hsame : unsplit (q.canonical again) = url := by
      split at heq
      · exact heq
      · exact absurd heq.symm h.ne_nil
    have hfree : ∀ c ∈ unsplit (q.canonical again), Text.isBlank c = false := by
      rw [hsame]
      exact h.free
    have hread : split (unsplit (q.canonical again)) = .ok q := by
      rw [hsame]
      exact h.split_eq
    have hcases := split_canonical h.split_eq hport hfree hread h.web_parts
    exact (hcases.resolve_right fun hnone => h.isTidy.host hnone.1).symm
  · intro heq
    rw [heq, h.unsplit_eq, if_pos h.web]

theorem IsReadOf.isStated_iff {again : Option Nat} (h : IsReadOf url p port q) :
    q.IsStated again ↔ q.canonical again = q := by
  have hquery : essentialQuery q.query = q.query := by
    rw [h.query_eq, essentialQuery_essentialQuery]
  have hfragment : essentialFragment q.fragment = q.fragment := by
    rw [h.fragment_eq, essentialFragment_essentialFragment]
  rw [canonical_eq_self_iff hquery hfragment]
  refine and_congr_right fun hauthority => ⟨?_, fun hne => ?_⟩
  · rintro ⟨path, hpath⟩
    rw [hpath]
    exact List.cons_ne_nil _ _
  · have hlocated : q.authority ≠ [] := by
      intro hnone
      rw [hauthority, essentialAuthority_eq] at hnone
      exact bracketed_ne_nil h.isTidy.host (List.append_eq_nil_iff.mp hnone).1
    obtain ⟨c, path, hpath⟩ := List.exists_cons_of_ne_nil hne
    have hroot := (isApart_of_split h.split_eq).rooted hlocated c (by rw [hpath]; rfl)
    exact ⟨path, by rw [hpath, hroot]⟩

/-- **A canonical form is an address of the web without anything that does not tell pages apart,
and making a canonical form of it again changes nothing exactly if its authority is the host in
lower case, with a port that is not the one of the scheme, and its path starts at the root.**
Where the text was resolved to an address with a host, that is so. -/
theorem canonical_again (raw base : String) :
    canonical raw base = "" ∧ canonical "" "" = "" ∨
      ∃ q port, split (canonical raw base).toList = .ok q ∧ q.port = .ok port ∧ q.IsTidy ∧
        (canonical (canonical raw base) "" = canonical raw base ↔ q.IsStated port) ∧
        ((essentials? raw base).isSome = true → q.IsStated port) := by
  by_cases hne : canonical raw base = ""
  · exact .inl ⟨hne, rfl⟩
  · right
    obtain ⟨p, port, q, hresolve, hread⟩ := exists_isReadOf (canonical_ne_nil hne)
    obtain ⟨-, -, again, hagain, -⟩ := isWeb_iff.mp hread.web_parts
    have hchars : (canonical raw base).toList = canonicalChars raw.toList base.toList :=
      String.toList_ofList
    refine ⟨q, again, ?_, hagain, hread.isTidy, ?_, fun hsome => ?_⟩
    · rw [hchars]
      exact hread.split_eq
    · rw [hread.isStated_iff, ← hread.canonicalChars_eq_self_iff hagain, ← String.toList_inj,
        hchars]
      simp [canonical]
    · obtain ⟨t, ht⟩ := Option.isSome_iff_exists.mp hsome
      obtain ⟨p', port', hresolve', hhost, -⟩ := essentials?_some ht
      obtain ⟨rfl, rfl⟩ : p = p' ∧ port = port' := by simpa [hresolve] using hresolve'
      obtain ⟨⟨url, hurl⟩, hport⟩ := resolve_ok hresolve
      obtain rfl := hread.eq_canonical hhost
      obtain ⟨hhost', hport'⟩ := hostAndPort_canonical hurl hport hread.brackets
      obtain rfl : essentialPort p.scheme port = again := Except.ok.inj (hport'.symm.trans hagain)
      exact hread.isStated_iff.mpr (canonical_canonical hhost')

/-- Where no host was resolved, the start of the path may be read as an authority, which nobody
has put into lower case. -/
theorem canonical_changes_again :
    canonical (canonical "http:////EXAMPLE.com:80/x" "") "" ≠
        canonical "http:////EXAMPLE.com:80/x" "" ∧
      canonical "http:////EXAMPLE.com:80/x" "" = "http://EXAMPLE.com:80/x" ∧
      canonical "http://EXAMPLE.com:80/x" "" = "http://example.com/x" := by
  decide +kernel

end VacancyLedger.Address
