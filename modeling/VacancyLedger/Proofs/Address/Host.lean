/-
The authority that is left of a host and a port.

A host is what stands behind the last `@` of an authority, in brackets or up to a colon.  So no
character of it ends an authority or begins a host, and if a closing bracket is in it then
neither a colon nor an opening bracket is.  From that alone a host is found again in the
authority that is written of it, as long as the brackets of that authority stand in pairs: a
host that lost its own brackets is read again only if none were in it.  The port is found
behind it as the number that was written.
-/
import VacancyLedger.Address.Canonical
import VacancyLedger.Proofs.Address.Written
import VacancyLedger.Proofs.Text.Case

namespace VacancyLedger.Address

variable {authority host scheme url : List Char} {port : Option Nat} {n : Nat} {c : Char}
  {p : Parts}

/-! ### Hosts in lower case -/

/-- A host in lower case, apart from the zone of an address. -/
def lowHost (host : List Char) : List Char :=
  match Text.cutAt '%' host with
  | (name, some zone) => Text.lowerChars name ++ '%' :: zone
  | (name, none) => Text.lowerChars name

theorem Parts.host_eq (p : Parts) : p.host = lowHost p.hostAndPort.1 := rfl

/-- Lower case brings no mark and no sign into a host. -/
theorem mem_of_mem_lowHost (hc : c.toNat < 97) (h : c ∈ lowHost host) : c ∈ host := by
  have hlower : ∀ name, c ∈ Text.lowerChars name → c ∈ name := by
    intro name hin
    rcases Text.mem_lowerChars hin with hin | hsmall
    · exact hin
    · exact absurd (hsmall.2 (by omega)).1 (by omega)
  unfold lowHost at h
  rcases Text.cutAt_cases '%' host with ⟨-, hcut⟩ | ⟨name, zone, rfl, -, hcut⟩
  · rw [hcut] at h
    exact hlower host h
  · rw [hcut] at h
    exact (List.mem_append.mp h).elim (fun hin => List.mem_append_left _ (hlower name hin))
      (List.mem_append_right _)

theorem lowHost_lowHost (host : List Char) : lowHost (lowHost host) = lowHost host := by
  have hpercent : ∀ name, '%' ∉ name → '%' ∉ Text.lowerChars name := by
    intro name hname hin
    rcases Text.mem_lowerChars hin with hin | hsmall
    · exact hname hin
    · exact absurd (hsmall.2 (by decide)).1 (by decide)
  rcases Text.cutAt_cases '%' host with ⟨hfree, hcut⟩ | ⟨name, zone, -, hname, hcut⟩
  · have hlow : lowHost host = Text.lowerChars host := by rw [lowHost, hcut]
    rw [hlow, lowHost, Text.cutAt_of_not_mem (hpercent host hfree)]
    exact Text.lowerChars_lowerChars host
  · have hlow : lowHost host = Text.lowerChars name ++ '%' :: zone := by rw [lowHost, hcut]
    rw [hlow, lowHost, Text.cutAt_append (hpercent name hname)]
    simp only [Text.lowerChars_lowerChars]

/-! ### What a host is -/

/-- What stands as a host in an authority. -/
structure IsHost (host : List Char) : Prop where
  marks : ∀ c ∈ host, endsAuthority c = false
  user : '@' ∉ host
  brackets : ']' ∉ host ∨ ':' ∉ host ∧ '[' ∉ host

theorem isHost_lowHost (h : IsHost host) : IsHost (lowHost host) where
  marks := by
    intro c hc
    by_contra hmark
    have hends : endsAuthority c = true := by simpa using hmark
    have hsign : c.toNat < 97 := by
      rcases endsAuthority_iff.mp hends with rfl | rfl | rfl
      · decide
      · decide
      · decide
    rw [h.marks c (mem_of_mem_lowHost hsign hc)] at hends
    cases hends
  user := fun hin => h.user (mem_of_mem_lowHost (by decide) hin)
  brackets := by
    refine h.brackets.imp (fun hnone hin => hnone (mem_of_mem_lowHost (by decide) hin)) ?_
    exact fun hnone => ⟨fun hin => hnone.1 (mem_of_mem_lowHost (by decide) hin),
      fun hin => hnone.2 (mem_of_mem_lowHost (by decide) hin)⟩

/-- The host as it is written stands before a closing bracket if there is an opening one, and before
a colon if not. -/
theorem hostAndPort_cases (p : Parts) :
    ('[' ∉ hostAndPort p.authority ∧
        p.hostAndPort.1 = (Text.cutAt ':' (hostAndPort p.authority)).1) ∨
      ∃ before inner, hostAndPort p.authority = before ++ '[' :: inner ∧
        p.hostAndPort.1 = (Text.cutAt ']' inner).1 := by
  rcases Text.cutAt_cases '[' (hostAndPort p.authority) with
    ⟨hfree, hcut⟩ | ⟨before, inner, hauthority, -, hcut⟩
  · exact .inl ⟨hfree, by simp [Parts.hostAndPort, hcut]⟩
  · exact .inr ⟨before, inner, hauthority, by simp [Parts.hostAndPort, hcut]⟩

/-- The host as it is written is a piece of what follows the user. -/
theorem mem_of_mem_hostAndPort (h : c ∈ p.hostAndPort.1) : c ∈ hostAndPort p.authority := by
  rcases hostAndPort_cases p with ⟨-, hhost⟩ | ⟨before, inner, hauthority, hhost⟩
  · rw [hhost] at h
    exact (Text.prefix_cutAt_fst ':' _).subset h
  · rw [hhost] at h
    rw [hauthority]
    exact List.mem_append_right _
      (List.mem_cons_of_mem _ ((Text.prefix_cutAt_fst ']' inner).subset h))

/-- The host as it is written is one. -/
theorem isHost_hostAndPort (hp : p.IsApart) : IsHost p.hostAndPort.1 where
  marks c hc :=
    hp.authority c ((Text.cutAtLast_snd '@' p.authority).2 c (mem_of_mem_hostAndPort hc))
  user hin := (Text.cutAtLast_snd '@' p.authority).1 (mem_of_mem_hostAndPort hin)
  brackets := by
    rcases hostAndPort_cases p with ⟨hfree, hhost⟩ | ⟨_, inner, -, hhost⟩
    · right
      refine ⟨?_, fun hin => hfree (mem_of_mem_hostAndPort hin)⟩
      rw [hhost]
      exact Text.not_mem_cutAt_fst ':' _
    · left
      rw [hhost]
      exact Text.not_mem_cutAt_fst ']' inner

theorem isHost_of_split (h : split url = .ok p) : IsHost p.host :=
  isHost_lowHost (isHost_hostAndPort (isApart_of_split h))

/-! ### The authority of a host and a port -/

/-- The port that is written: none if it is the one the scheme has anyway. -/
def essentialPort (scheme : List Char) (port : Option Nat) : Option Nat :=
  if port = defaultPort? scheme then none else port

/-- The digits of a port. -/
def digits (n : Nat) : List Char :=
  (toString n).toList

/-- A port behind its colon. -/
def portText (port : Option Nat) : List Char :=
  port.elim [] fun n => ':' :: digits n

theorem essentialAuthority_eq (scheme host : List Char) (port : Option Nat) :
    essentialAuthority scheme host port =
      bracketed host ++ portText (essentialPort scheme port) := by
  unfold essentialAuthority essentialPort portText
  cases port with
  | none => simp
  | some n =>
      by_cases hdefault : defaultPort? scheme = some n
      · simp [hdefault]
      · simp [hdefault, Ne.symm hdefault, digits]

theorem digits_eq (n : Nat) : digits n = Nat.toDigits 10 n := Nat.toList_repr

theorem isDigit_of_mem_digits (h : c ∈ digits n) : c.isDigit = true := by
  rw [digits_eq] at h
  exact Nat.isDigit_of_mem_toDigits (by decide) (by decide) h

theorem mem_portText (h : c ∈ portText port) : c = ':' ∨ c.isDigit = true := by
  cases port with
  | none => cases h
  | some n => exact (List.mem_cons.mp h).imp_right isDigit_of_mem_digits

theorem convert_digits (h : n ≤ 65535) : Number.convert (digits n) = .ok n := by
  have hlength : (digits n).length ≤ 5 := by
    rw [digits_eq, Nat.length_toDigits_le_iff (by decide) (by decide)]
    omega
  rw [Number.convert, if_neg (by rw [Number.maxDigits]; omega), digits_eq, Number.ofDigits_toDigits]

/-! ### Reading the authority -/

theorem brackets_pair (h : checkBrackets authority = .ok ()) :
    '[' ∈ authority ↔ ']' ∈ authority := by
  unfold checkBrackets at h
  by_cases hopened : '[' ∈ authority
  · by_cases hclosed : ']' ∈ authority
    · exact iff_of_true hopened hclosed
    · simp [hopened, hclosed] at h
  · by_cases hclosed : ']' ∈ authority
    · simp [hopened, hclosed] at h
    · exact iff_of_false hopened hclosed

theorem cutAt_portText (h : ':' ∉ host) (port : Option Nat) :
    Text.cutAt ':' (host ++ portText port) = (host, port.map digits) := by
  cases port with
  | none => simpa [portText] using Text.cutAt_of_not_mem h
  | some n => exact Text.cutAt_append h _

theorem not_mem_portText (hcolon : c ≠ ':') (hdigit : c.isDigit = false) : c ∉ portText port := by
  intro h
  rcases mem_portText h with h | h
  · exact hcolon h
  · rw [hdigit] at h
    cases h

theorem mem_bracketed (h : c ∈ bracketed host) : c ∈ host ∨ c = '[' ∨ c = ']' := by
  unfold bracketed at h
  split at h
  · simp only [List.cons_append, List.mem_cons, List.mem_append, List.not_mem_nil, or_false] at h
    tauto
  · exact .inl h

theorem user_not_mem_written (hhost : IsHost host) (port : Option Nat) :
    '@' ∉ bracketed host ++ portText port := by
  rw [List.mem_append, not_or]
  refine ⟨fun hin => ?_, not_mem_portText (by decide) (by decide)⟩
  rcases mem_bracketed hin with hin | hin | hin
  · exact hhost.user hin
  · cases hin
  · cases hin

/-- **A host and a port are found again in the authority that is written of them.** -/
theorem hostAndPort_of_written (hhost : IsHost host)
    (hauthority : p.authority = bracketed host ++ portText port)
    (hbrackets : checkBrackets p.authority = .ok ()) :
    p.hostAndPort = (host, port.map digits) := by
  have hplace : hostAndPort p.authority = p.authority := by
    have hfree := user_not_mem_written hhost port
    rw [← hauthority] at hfree
    rw [hostAndPort, Text.cutAtLast_of_not_mem hfree]
  have hport : (if port.map digits = some [] then none else port.map digits) =
      port.map digits := by
    refine if_neg fun hempty => ?_
    obtain ⟨n, -, hn⟩ := Option.map_eq_some_iff.mp hempty
    rw [digits_eq] at hn
    exact Nat.toDigits_ne_nil hn
  by_cases hcolon : ':' ∈ host
  · have hclosed : ']' ∉ host := hhost.brackets.resolve_right fun hnone => hnone.1 hcolon
    have hwritten : p.authority = [] ++ '[' :: (host ++ ']' :: portText port) := by
      rw [hauthority, bracketed, if_pos (by simpa using hcolon)]
      simp
    have hempty : Text.cutAt ':' (portText port) = ([], port.map digits) :=
      cutAt_portText List.not_mem_nil port
    rw [Parts.hostAndPort, hplace, hwritten, Text.cutAt_append List.not_mem_nil]
    simp only [Text.cutAt_append hclosed, Option.getD_some, hempty, hport]
  · have hwritten : p.authority = host ++ portText port := by
      rw [hauthority, bracketed, if_neg (by simpa using hcolon)]
    have hopened : '[' ∉ p.authority := by
      intro hin
      have hclosed := (brackets_pair hbrackets).mp hin
      have hbracket : '[' ∉ portText port ∧ ']' ∉ portText port :=
        ⟨not_mem_portText (by decide) (by decide), not_mem_portText (by decide) (by decide)⟩
      rw [hwritten, List.mem_append, or_iff_left hbracket.1] at hin
      rw [hwritten, List.mem_append, or_iff_left hbracket.2] at hclosed
      exact hhost.brackets.elim (fun hnone => hnone hclosed) fun hnone => hnone.2 hin
    rw [Parts.hostAndPort, hplace, Text.cutAt_of_not_mem hopened, hwritten]
    simp only [cutAt_portText hcolon, hport]

/-! ### The port as a number -/

theorem port_le_of_port (h : p.port = .ok (some n)) : n ≤ 65535 := by
  unfold Parts.port at h
  split at h
  · cases h
  · split at h
    · cases h
    · obtain ⟨m, -, hm⟩ := bind_ok h
      split at hm
      · cases hm
      · cases hm
        omega

theorem port_of_written (hport : ∀ n ∈ port, n ≤ 65535)
    (h : p.hostAndPort = (host, port.map digits)) : p.port = .ok port := by
  unfold Parts.port
  rw [h]
  cases port with
  | none => rfl
  | some n =>
      have hn : n ≤ 65535 := hport n rfl
      have hall : (digits n).all Char.isDigit = true :=
        List.all_eq_true.mpr fun c hc => isDigit_of_mem_digits hc
      have hlarge : ¬ 65535 < n := by omega
      simp [hall, convert_digits hn, bind, Except.bind, hlarge]

end VacancyLedger.Address
