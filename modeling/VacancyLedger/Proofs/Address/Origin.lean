/-
The origin of an address is a place to ask.

An origin is the scheme and the authority of an address in lower case.  The rules of a site are
asked for at an address that is written from it, so this has to be read again: an authority that
may stand in an address may still stand there when it is lowered.  What is checked of an authority
are its signs, which stay where they are, what stands in brackets, and that there is no mark in
disguise, which lowering does not write.  With a scheme before it the same authority is found
again; without one none is.

So an address that is written from an origin is of that origin.  It is also on the same host: a host
is cut out of an authority at signs, and where there is no sigma lowering the authority first or the
host afterwards comes to the same.
-/
import VacancyLedger.Proofs.Address.Host
import VacancyLedger.Proofs.Address.Literal

namespace VacancyLedger.Address

open Text (Lowers IsSign)

variable {cs ds : List Char}

/-! ### Authorities -/

theorem contains_of_lowers {c : Char} (hc : IsSign c) (h : Lowers cs ds) :
    ds.contains c = cs.contains c := by
  rw [Bool.eq_iff_iff, List.contains_iff_mem, List.contains_iff_mem]
  exact h.mem_sign hc

/-- Brackets that may stand in an authority may stand in it when it is lowered. -/
theorem checkBrackets_of_lowers (h : Lowers cs ds) (hok : checkBrackets cs = .ok ()) :
    checkBrackets ds = .ok () := by
  have hplace : Lowers (hostAndPort cs) (hostAndPort ds) := h.cutAtLast (by decide)
  unfold checkBrackets at hok ⊢
  simp only [contains_of_lowers (c := '[') (by decide) h,
    contains_of_lowers (c := ']') (by decide) h] at hok ⊢
  split at hok
  · cases hok
  · rename_i hpaired
    rw [if_neg hpaired]
    split at hok
    · rename_i hnone
      rw [if_pos hnone]
    · rename_i hsome
      rw [if_neg hsome]
      rcases hplace.cutAt (c := '[') (by decide) with ⟨-, hcut, -, hcut'⟩ |
        ⟨before, inner, before', inner', -, -, -, -, hcut, hcut', hbefore, hinner⟩
      · rw [hcut] at hok
        rw [hcut']
        rcases hplace.cutAt (c := ':') (by decide) with ⟨-, hport, -, hport'⟩ |
          ⟨_, _, _, _, -, -, -, -, hport, hport', hhost, -⟩
        · simp only [hport] at hok
          simp only [hport']
          exact checkBracketed_of_lowers hplace hok
        · simp only [hport] at hok
          simp only [hport']
          exact checkBracketed_of_lowers hhost hok
      · rw [hcut] at hok
        rw [hcut']
        cases before with
        | cons => cases hok
        | nil =>
            obtain rfl := hbefore.nil_iff.mp rfl
            rcases hinner.cutAt (c := ']') (by decide) with ⟨-, hclose, -, hclose'⟩ |
              ⟨place, rest, place', rest', -, -, -, -, hclose, hclose', hlowers, hrest⟩
            · simp only [hclose] at hok
              simp only [hclose']
              exact checkBracketed_of_lowers hinner hok
            · simp only [hclose] at hok
              simp only [hclose']
              cases rest with
              | nil =>
                  obtain rfl := hrest.nil_iff.mp rfl
                  exact checkBracketed_of_lowers hlowers hok
              | cons c rest =>
                  simp only at hok
                  split at hok
                  · rename_i hcolon
                    subst hcolon
                    obtain ⟨rest', rfl, -⟩ := hrest.ascii (by decide)
                    exact checkBracketed_of_lowers hlowers hok
                  · cases hok

/-- No run of the lower-case mapping leads to a mark in disguise. -/
theorem lowerShifts_unmarked : (Text.lowerShifts.all fun s => disguisedMarks.all fun mark =>
    decide (mark < (s.lo + s.delta).toNat ∨ (s.hi + s.delta).toNat < mark)) = true := by
  decide +kernel

theorem lowerAscii_unmarked : ∀ c : Char, c.toNat < 128 →
    (!disguisedMarks.contains c.toLower.toNat) = true :=
  Text.forall_ascii (by decide +kernel)

/-- Lowering a character writes no mark in disguise. -/
theorem unmarked_lowerChar {c d : Char} (hc : disguisedMarks.contains c.toNat = false)
    (hd : d ∈ Text.lowerChar c) : disguisedMarks.contains d.toNat = false := by
  unfold Text.lowerChar at hd
  split at hd
  · rename_i hascii
    rw [List.mem_singleton] at hd
    subst hd
    exact (Bool.not_eq_true' _).mp (lowerAscii_unmarked c hascii)
  · split at hd
    · rcases List.mem_cons.mp hd with rfl | hd
      · decide
      · rw [List.mem_singleton] at hd
        subst hd
        decide
    · rw [List.mem_singleton, Text.shiftBy] at hd
      split at hd
      · rename_i m hfind
        subst hd
        obtain ⟨s, hs, htarget⟩ := List.exists_of_findSome?_eq_some hfind
        obtain ⟨hlo, hhi, -, hm⟩ := Text.Shift.target?_some htarget
        have hregular := List.all_eq_true.mp Text.lowerShifts_regular s hs
        rw [(Text.Shift.isRegular_target hregular htarget).1]
        have hmarks := List.all_eq_true.mp (List.all_eq_true.mp lowerShifts_unmarked s hs)
        rw [← Bool.not_eq_true, List.contains_iff_mem]
        intro hin
        have hout := of_decide_eq_true (hmarks m hin)
        omega
      · subst hd
        exact hc

theorem checkMarks_of_lowers (h : Lowers cs ds) (hok : checkMarks cs = .ok ()) :
    checkMarks ds = .ok () := by
  have hiff : ∀ authority, checkMarks authority = .ok () ↔
      ∀ c ∈ authority, disguisedMarks.contains c.toNat = false := by
    intro authority
    unfold checkMarks
    split
    · rename_i hany
      obtain ⟨c, hc, hmark⟩ := List.any_eq_true.mp hany
      refine iff_of_false (fun hok => nomatch hok) fun hall => ?_
      rw [hall c hc] at hmark
      cases hmark
    · rename_i hnone
      rw [Bool.not_eq_true, List.any_eq_false] at hnone
      exact iff_of_true rfl fun c hc => by simpa using hnone c hc
  rw [hiff] at hok ⊢
  exact h.forall_mem (by decide) (by decide) fun c hc _ d hd => unmarked_lowerChar (hok c hc) hd

/-! ### Origins -/

variable {url : List Char} {p : Parts}

/-- The characters that are taken out of an address. -/
def isFeed (c : Char) : Bool := c == '\t' || c == '\r' || c == '\n'

theorem mem_of_mem_clean {c : Char} (h : c ∈ clean cs) : c ∈ cs :=
  (List.dropWhile_sublist _).subset (List.mem_of_mem_filter h)

theorem isFeed_of_mem_clean {c : Char} (h : c ∈ clean cs) : isFeed c = false :=
  (Bool.not_eq_true' _).mp (List.mem_filter.mp h).2

theorem clean_of_head {c : Char} (h : 32 < c.toNat) (cs : List Char) :
    clean (c :: cs) = (c :: cs).filter (!isFeed ·) := by
  have hdrop : (c :: cs).dropWhile (fun c => c.toNat ≤ 32) = c :: cs :=
    List.dropWhile_cons_of_neg (by simpa using h)
  rw [clean, hdrop]
  rfl

/-- What is read behind a scheme are pieces of what stands there. -/
theorem mem_of_mem_partsBehind {scheme rest : List Char} {c : Char}
    (hc : c ∈ (partsBehind scheme rest).authority ∨ c ∈ (partsBehind scheme rest).path ∨
      c ∈ (partsBehind scheme rest).query ∨ c ∈ (partsBehind scheme rest).fragment) :
    c ∈ rest := by
  have hpieces : (∀ c ∈ (authorityAndRest rest).1, c ∈ rest) ∧
      ∀ c ∈ (authorityAndRest rest).2, c ∈ rest := by
    rcases authorityAndRest_cases rest with hnone | ⟨authority, more, heq, hcut, -⟩
    · rw [hnone]
      exact ⟨nofun, fun c hc => hc⟩
    · rw [hcut, heq]
      exact ⟨fun c hc => List.mem_cons_of_mem _ (List.mem_cons_of_mem _
          (List.mem_append_left more hc)),
        fun c hc => List.mem_cons_of_mem _ (List.mem_cons_of_mem _
          (List.mem_append_right authority hc))⟩
  have hbehind : ∀ {mark : Char} {cs : List Char}, c ∈ (Text.cutAt mark cs).2.getD [] → c ∈ cs := by
    intro mark cs hin
    cases hcut : (Text.cutAt mark cs).2 with
    | none =>
        rw [hcut] at hin
        cases hin
    | some after =>
        rw [hcut] at hin
        exact Text.mem_of_cutAt_snd hcut hin
  rcases hc with hc | hc | hc | hc
  · exact hpieces.1 c hc
  · exact hpieces.2 c ((prefix_path scheme rest).subset hc)
  · exact hpieces.2 c ((Text.prefix_cutAt_fst '#' _).subset (hbehind hc))
  · exact hpieces.2 c (hbehind hc)

/-- The parts behind the scheme are pieces of the address, as it is when it was cleaned. -/
theorem mem_clean_of_mem_part (h : split url = .ok p) {c : Char}
    (hc : c ∈ p.authority ∨ c ∈ p.path ∨ c ∈ p.query ∨ c ∈ p.fragment) : c ∈ clean url := by
  have hrest : (schemeAndRest [] url).2 <:+ clean url := by
    unfold schemeAndRest
    cases hcut : cutScheme (clean url) with
    | none => exact List.suffix_refl _
    | some found =>
        obtain ⟨scheme, rest⟩ := found
        obtain ⟨name, -, hclean, -⟩ := cutScheme_eq_some_iff.mp hcut
        rw [hclean]
        exact ⟨name ++ [':'], by simp⟩
  rw [(splitWith_ok_iff.mp h).1] at hc
  exact hrest.subset (mem_of_mem_partsBehind hc)

/-- No character of a scheme is taken out of an address. -/
theorem isFeed_of_mem_scheme {scheme : List Char} (h : IsLowScheme scheme) {c : Char}
    (hc : c ∈ scheme) : isFeed c = false := by
  have habove := (toNat_of_isSchemeChar (h.1.2 c hc)).1
  simp only [isFeed, Bool.or_eq_false_iff, beq_eq_false_iff_ne]
  refine ⟨⟨?_, ?_⟩, ?_⟩ <;> rintro rfl <;> exact absurd habove (by decide)

/-- A scheme in lower case is lowered to itself. -/
theorem lowerChars_scheme {scheme : List Char} (h : IsLowScheme scheme) :
    Text.lowerChars scheme = scheme := by
  rw [(Text.lowers_lowerChars scheme).eq_map fun c hc => (toNat_of_isSchemeChar (h.1.2 c hc)).2]
  exact h.2

/-- What an origin is written as, with a path behind it. -/
def originText (p : Parts) (path : List Char) : List Char :=
  Text.lowerChars p.scheme ++ ':' :: '/' :: '/' :: (Text.lowerChars p.authority ++ '/' :: path)

/-- What is read of it: nothing is taken out but of the path. -/
theorem clean_originText (h : split url = .ok p) (hscheme : IsLowScheme p.scheme)
    (path : List Char) :
    clean (originText p path) = p.scheme ++ ':' :: '/' :: '/' ::
      (Text.lowerChars p.authority ++ '/' :: path.filter (!isFeed ·)) := by
  have hsign : ∀ c, isFeed c = true → IsSign c := by
    intro c hc
    simp only [isFeed, Bool.or_eq_true, beq_iff_eq] at hc
    rcases hc with (rfl | rfl) | rfl <;> decide
  have hname : ∀ c ∈ p.scheme, isFeed c = false := fun c hc => isFeed_of_mem_scheme hscheme hc
  have hauthority : ∀ c ∈ Text.lowerChars p.authority, isFeed c = false :=
    (Text.lowers_lowerChars p.authority).free hsign fun c hc =>
      isFeed_of_mem_clean (mem_clean_of_mem_part h (.inl hc))
  have hkept : ∀ {cs : List Char}, (∀ c ∈ cs, isFeed c = false) → cs.filter (!isFeed ·) = cs :=
    fun hfree => List.filter_eq_self.mpr fun c hc => by rw [hfree c hc]; rfl
  obtain ⟨c, name, hcons⟩ := List.exists_cons_of_ne_nil hscheme.1.ne_nil
  have hhead : 32 < c.toNat :=
    (toNat_of_isSchemeChar (hscheme.1.2 c (by rw [hcons]; exact List.mem_cons_self))).1
  rw [originText, lowerChars_scheme hscheme]
  calc clean (p.scheme ++ ':' :: '/' :: '/' :: (Text.lowerChars p.authority ++ '/' :: path))
      = (p.scheme ++ ':' :: '/' :: '/' :: (Text.lowerChars p.authority ++ '/' :: path)).filter
          (!isFeed ·) := by
        rw [hcons]
        exact clean_of_head hhead _
    _ = p.scheme ++ ([':', '/', '/'] ++ (Text.lowerChars p.authority ++
          (['/'] ++ path.filter (!isFeed ·)))) := by
        rw [List.filter_append, hkept hname, ← hkept hauthority]
        simp [isFeed]
    _ = _ := rfl

/-- Of an origin with a scheme are read this scheme and the authority in lower case. -/
theorem partsBehind_originText (h : split url = .ok p) (hscheme : IsLowScheme p.scheme)
    (path : List Char) :
    let found := schemeAndRest [] (originText p path)
    (partsBehind found.1 found.2).scheme = p.scheme ∧
      (partsBehind found.1 found.2).authority = Text.lowerChars p.authority := by
  have hends : ∀ c, endsAuthority c = true → IsSign c := by
    intro c hc
    rcases endsAuthority_iff.mp hc with rfl | rfl | rfl <;> decide
  have hfree := (Text.lowers_lowerChars p.authority).free hends (isApart_of_split h).authority
  rw [schemeAndRest, clean_originText h hscheme, cutScheme_written hscheme, Option.getD_some]
  refine ⟨rfl, ?_⟩
  show (authorityAndRest _).1 = _
  rw [authorityAndRest_append hfree fun d hd => by
    obtain rfl := Option.some.inj hd
    rfl]

/-- **The origin of an address may be read again**, with any path behind it. -/
theorem split_originText (h : split url = .ok p) (path : List Char) :
    ∃ q, split (originText p path) = .ok q := by
  have hlowers := Text.lowers_lowerChars p.authority
  obtain ⟨-, hbrackets, hmarks⟩ := splitWith_ok_iff.mp h
  suffices hauthority :
      (partsBehind (schemeAndRest [] (originText p path)).1
        (schemeAndRest [] (originText p path)).2).authority = [] ∨
      (partsBehind (schemeAndRest [] (originText p path)).1
        (schemeAndRest [] (originText p path)).2).authority = Text.lowerChars p.authority by
    refine ⟨_, splitWith_ok_iff.mpr ⟨rfl, ?_⟩⟩
    rcases hauthority with hnone | hlower
    · rw [hnone]
      exact ⟨rfl, rfl⟩
    · rw [hlower]
      exact ⟨checkBrackets_of_lowers hlowers hbrackets, checkMarks_of_lowers hlowers hmarks⟩
  rcases scheme_of_split h with ⟨hscheme, -⟩ | hscheme
  · -- Without a scheme the text starts with a colon, and has no authority.
    left
    obtain ⟨rest, hclean⟩ : ∃ rest, clean (originText p path) = ':' :: rest := by
      rw [originText, hscheme]
      exact ⟨_, clean_of_head (by decide) _⟩
    have hcut : cutScheme (':' :: rest) = none := cutScheme_of_head fun c hc => by
      obtain rfl := Option.some.inj hc
      decide
    rw [schemeAndRest, hclean, hcut]
    rfl
  · exact .inr (partsBehind_originText h hscheme path).2

theorem parts_of_originText (h : split url = .ok p) (hscheme : IsLowScheme p.scheme)
    (path : List Char) :
    ∃ q, split (originText p path) = .ok q ∧ q.scheme = p.scheme ∧
      q.authority = Text.lowerChars p.authority := by
  obtain ⟨q, hq⟩ := split_originText h path
  refine ⟨q, hq, ?_⟩
  rw [(splitWith_ok_iff.mp hq).1]
  exact partsBehind_originText h hscheme path

/-- An address has an origin if it has parts. -/
theorem origin_ok_iff {url origin : String} : Address.origin url = .ok origin ↔
    ∃ p, split url.toList = .ok p ∧ origin = String.ofList
      (Text.lowerChars p.scheme ++ "://".toList ++ Text.lowerChars p.authority) := by
  unfold Address.origin
  constructor
  · intro h
    obtain ⟨p, hp, hdone⟩ := bind_ok h
    exact ⟨p, hp, (Except.ok.inj hdone).symm⟩
  · rintro ⟨p, hp, rfl⟩
    rw [hp]
    rfl

theorem host_of_split {url : String} {p : Parts} (h : split url.toList = .ok p) :
    Address.host url = .ok (String.ofList (Text.lowerChars p.host)) := by
  rw [Address.host, h]
  rfl

/-- The address at which an origin keeps its rules is the origin with a path behind it. -/
theorem toList_rules (p : Parts) :
    (String.ofList (Text.lowerChars p.scheme ++ "://".toList ++ Text.lowerChars p.authority) ++
      "/robots.txt").toList = originText p "robots.txt".toList := by
  rw [String.toList_append, String.toList_ofList, originText]
  simp

/-- The address at which an origin keeps its rules has a host. -/
theorem host_of_origin {url origin : String} (h : Address.origin url = .ok origin) :
    ∃ host, Address.host (origin ++ "/robots.txt") = .ok host := by
  obtain ⟨p, hp, rfl⟩ := origin_ok_iff.mp h
  obtain ⟨q, hq⟩ := split_originText hp "robots.txt".toList
  rw [← toList_rules] at hq
  exact ⟨_, host_of_split hq⟩

theorem colon_not_mem_scheme (h : split url = .ok p) : ':' ∉ Text.lowerChars p.scheme := by
  rcases scheme_of_split h with ⟨hnone, -⟩ | hlow
  · rw [hnone]
    exact List.not_mem_nil
  · rw [lowerChars_scheme hlow]
    exact hlow.1.colon_not_mem

/-- Two addresses have one origin if their schemes and their authorities are the same in lower
case. -/
theorem origin_eq_iff {url url' : String} {p p' : Parts} (hp : split url.toList = .ok p)
    (hp' : split url'.toList = .ok p') :
    Address.origin url = Address.origin url' ↔
      Text.lowerChars p.scheme = Text.lowerChars p'.scheme ∧
        Text.lowerChars p.authority = Text.lowerChars p'.authority := by
  rw [origin_ok_iff.mpr ⟨p, hp, rfl⟩, origin_ok_iff.mpr ⟨p', hp', rfl⟩]
  constructor
  · intro h
    have htext := String.ofList_injective (Except.ok.inj h)
    simp only [List.append_assoc] at htext
    have hcut := congrArg (Text.cutAt ':') htext
    have hslashes : "://".toList = ':' :: "//".toList := rfl
    rw [hslashes, List.cons_append, List.cons_append, Text.cutAt_append (colon_not_mem_scheme hp),
      Text.cutAt_append (colon_not_mem_scheme hp'), Prod.mk.injEq, Option.some.injEq] at hcut
    exact ⟨hcut.1, List.append_cancel_left hcut.2⟩
  · rintro ⟨hscheme, hauthority⟩
    rw [hscheme, hauthority]

/-! ### The site of an origin -/

/-- A host is found in a lowered authority where it is found in the authority. -/
theorem lowers_hostAndPort {q : Parts} (h : Lowers p.authority q.authority) :
    Lowers p.hostAndPort.1 q.hostAndPort.1 := by
  have hplace : Lowers (hostAndPort p.authority) (hostAndPort q.authority) :=
    h.cutAtLast (by decide)
  rcases hplace.cutAt (c := '[') (by decide) with ⟨-, hcut, -, hcut'⟩ |
    ⟨_, inner, _, inner', -, -, -, -, hcut, hcut', -, hinner⟩
  · simp only [Parts.hostAndPort, hcut, hcut']
    exact hplace.cutAt_fst (by decide)
  · simp only [Parts.hostAndPort, hcut, hcut']
    exact hinner.cutAt_fst (by decide)

/-- The zone of a host makes no difference once all of the host is lowered. -/
theorem lowerChars_lowHost {host : List Char} (hsigma : 'Σ' ∉ host) :
    Text.lowerChars (lowHost host) = Text.lowerChars host := by
  unfold lowHost
  rcases Text.cutAt_cases '%' host with ⟨-, hcut⟩ | ⟨name, zone, rfl, -, hcut⟩
  · rw [hcut]
    exact Text.lowerChars_lowerChars host
  · have hzone : 'Σ' ∉ Text.lowerChars name ++ '%' :: zone := by
      rw [List.mem_append, not_or] at hsigma ⊢
      exact ⟨Text.sigma_not_mem_lowerChars name, hsigma.2⟩
    rw [hcut, Text.lowerChars_append hzone, Text.lowerChars_lowerChars,
      Text.lowerChars_append hsigma]

/-- Lowering an authority does not change its host, but for the letters. -/
theorem lowerChars_host {q : Parts} (hauthority : q.authority = Text.lowerChars p.authority)
    (hsigma : 'Σ' ∉ p.authority) : Text.lowerChars q.host = Text.lowerChars p.host := by
  have hfree : 'Σ' ∉ p.hostAndPort.1 := fun hin =>
    hsigma ((Text.cutAtLast_snd '@' p.authority).2 _ (mem_of_mem_hostAndPort hin))
  have hlowers : Lowers p.hostAndPort.1 q.hostAndPort.1 :=
    lowers_hostAndPort (hauthority ▸ Text.lowers_lowerChars p.authority)
  have hlow : q.hostAndPort.1 = Text.lowerChars p.hostAndPort.1 := hlowers.eq_lowerChars hfree
  calc Text.lowerChars q.host
      = Text.lowerChars q.hostAndPort.1 := by
        rw [Parts.host_eq, lowerChars_lowHost]
        rw [hlow]
        exact Text.sigma_not_mem_lowerChars _
    _ = Text.lowerChars p.hostAndPort.1 := by rw [hlow, Text.lowerChars_lowerChars]
    _ = Text.lowerChars p.host := by rw [Parts.host_eq, lowerChars_lowHost hfree]

section

variable {url origin : String} {p : Parts}

/-- The rules of an origin are at an address of this origin. -/
theorem origin_of_rules (hp : split url.toList = .ok p) (hscheme : IsLowScheme p.scheme)
    (h : Address.origin url = .ok origin) :
    Address.origin (origin ++ "/robots.txt") = .ok origin := by
  obtain ⟨p', hp', rfl⟩ := origin_ok_iff.mp h
  obtain rfl := Except.ok.inj (hp.symm.trans hp')
  obtain ⟨q, hq, hscheme', hauthority⟩ := parts_of_originText hp hscheme "robots.txt".toList
  rw [← toList_rules] at hq
  refine origin_ok_iff.mpr ⟨q, hq, ?_⟩
  rw [hscheme', hauthority, Text.lowerChars_lowerChars]

/-- The rules of the origin of an address are on the host of the address, if there is no sigma in
its authority. -/
theorem host_of_rules (hp : split url.toList = .ok p) (hscheme : IsLowScheme p.scheme)
    (hsigma : 'Σ' ∉ p.authority) (h : Address.origin url = .ok origin) :
    Address.host (origin ++ "/robots.txt") = Address.host url := by
  obtain ⟨p', hp', rfl⟩ := origin_ok_iff.mp h
  obtain rfl := Except.ok.inj (hp.symm.trans hp')
  obtain ⟨q, hq, -, hauthority⟩ := parts_of_originText hp hscheme "robots.txt".toList
  rw [← toList_rules] at hq
  rw [host_of_split hq, host_of_split hp, lowerChars_host hauthority hsigma]

/-- A sigma at the end of a host is lowered in another way than within the authority. -/
example : Address.origin "http://ΑΣ:a" = .ok "http://ασ:a" ∧
    Address.host "http://ασ:a/robots.txt" = .ok "ασ" ∧ Address.host "http://ΑΣ:a" = .ok "ας" :=
  ⟨rfl, rfl, rfl⟩

end

end VacancyLedger.Address
