import PictureTransfer.Link.Connector
import PictureTransfer.Proofs.Outcome
import PictureTransfer.Proofs.Toml.Figures

/-!
# Addresses of configurations

The address of a configuration is its host, a colon and its port in decimal.  There is no colon
among digits, so the last colon of the address is this one, whatever the host is: the address is
taken apart as it was put together.  A call for a connection is never refused for the form of
such an address.

* `Address.splitReversed_append`, `Address.split_append` — the last colon counts;
* `Address.port?_toDigits` — the digits of a port are read as that port;
* `Config.split_address` — an address is taken apart into what it was made of;
* `Config.host_of_hostPart_eq` — hosts of one form are the same, a pair of brackets aside;
* `Config.connect_eq`, `Config.refusal_ne_flaw` — what a call for a connection comes to;
* `Config.well_addressed` — all of it, for every configuration.
-/

namespace PictureTransfer

/-- The digits of a number are read as the number. -/
theorem Numeral.natural?_toDigits (n : Nat) : natural? 10 (Nat.toDigits 10 n) = some n := by
  obtain ⟨d, tail, hdigits, hdigit, _⟩ := (Toml.figures_toDigits n).cons
  have hplus : d ≠ '+' := Toml.ne_of_isDigit hdigit (by decide)
  have hunsigned : natural? 10 (Nat.toDigits 10 n) = digits? 10 (Nat.toDigits 10 n) := by
    rw [hdigits]
    unfold natural?
    split
    · rename_i heq
      exact absurd (List.cons.inj heq).1 hplus
    · rfl
  have hall : (Nat.toDigits 10 n).all (isDigit 10) = true :=
    List.all_eq_true.mpr isDigit_toDigits
  have hnonempty : (Nat.toDigits 10 n).isEmpty = false := by simp [hdigits]
  rw [hunsigned, digits?, hall, hnonempty, valueOf_toDigits]
  rfl

namespace Address

theorem splitReversed_append {back : List Char} (h : ':' ∉ back) (front : List Char) :
    splitReversed (back ++ ':' :: front) = some (back, front) := by
  have hback : ∀ c ∈ back, decide (c ≠ ':') = true := by
    intro c hc
    rw [decide_eq_true_iff]
    rintro rfl
    exact h hc
  rw [splitReversed, List.dropWhile_append_of_pos hback, List.takeWhile_append_of_pos hback]
  simp

/-- **The last colon counts.**  What stands behind it is the port, if it is one, and what stands
in front of it is the host. -/
theorem split_append {back : List Char} {port : UInt16} (hcolon : ':' ∉ back)
    (hport : port? back = some port) (front : List Char) :
    split (String.ofList (front ++ ':' :: back)) = .ok ⟨String.ofList front, port⟩ := by
  have hreverse : (front ++ ':' :: back).reverse = back.reverse ++ ':' :: front.reverse := by simp
  have hfree : ':' ∉ back.reverse := by simpa using hcolon
  simp only [split, String.toList_ofList, hreverse, splitReversed_append hfree,
    List.reverse_reverse, hport]

/-- **A port is read as it is written.** -/
theorem port?_toDigits (port : UInt16) : port? (Nat.toDigits 10 port.toNat) = some port := by
  have hbelow : Numeral.below UInt16.size port.toNat = some port.toNat := if_pos port.toNat_lt
  simp [port?, Numeral.natural?_toDigits, hbelow]

/-- There is no colon among digits. -/
theorem colon_not_mem_toDigits (n : Nat) : ':' ∉ Nat.toDigits 10 n := by
  intro hmem
  exact Toml.ne_of_isDigit (Numeral.isDigit_toDigits ':' hmem) (by decide) rfl

end Address

/-- Nothing that the system says of a host is said of the form of an address. -/
theorem Impasse.message_ne_flaw (impasse : Impasse) (flaw : Address.Flaw) :
    impasse.message ≠ flaw.message := by
  cases impasse <;> cases flaw <;> decide

namespace Config

/-- The host has a colon, and no bracket in front that would keep it apart. -/
def NeedsBrackets (host : String) : Prop := ':' ∈ host.toList ∧ host.toList.head? ≠ some '['

instance (host : String) : Decidable (NeedsBrackets host) := inferInstanceAs (Decidable (_ ∧ _))

theorem hostPart_eq (host : String) :
    hostPart host = if NeedsBrackets host then "[" ++ host ++ "]" else host := by
  have hneeds : (host.toList.contains ':' && host.toList.head? != some '[') = true ↔
      NeedsBrackets host := by simp [NeedsBrackets]
  simp only [hostPart, hneeds]

/-- **Hosts of one form** are the same, but that one may be the other in brackets. -/
theorem host_of_hostPart_eq {host other : String} (h : hostPart other = hostPart host) :
    other = host ∨ other = "[" ++ host ++ "]" ∨ host = "[" ++ other ++ "]" := by
  rw [hostPart_eq, hostPart_eq] at h
  split at h
  · split at h
    · have hlists := congrArg String.toList h
      simp only [String.toList_append, List.append_cancel_left_eq,
        List.append_cancel_right_eq] at hlists
      exact .inl (String.toList_inj.mp hlists)
    · exact .inr (.inr h.symm)
  · split at h
    · exact .inr (.inl h)
    · exact .inl h

variable (c : Config)

/-- An address as characters. -/
theorem toList_address :
    c.address.toList = (hostPart c.host).toList ++ ':' :: Nat.toDigits 10 c.port.toNat := by
  have hport : (toString c.port).toList = Nat.toDigits 10 c.port.toNat := by
    have hnat : toString c.port = toString c.port.toNat := rfl
    rw [hnat, Nat.toString_eq_ofList_toDigits, String.toList_ofList]
  simp [address, hport]

/-- **An address is taken apart** into what it was made of. -/
theorem split_address : Address.split c.address = .ok ⟨hostPart c.host, c.port⟩ := by
  have hsplit := Address.split_append (Address.colon_not_mem_toDigits c.port.toNat)
    (Address.port?_toDigits c.port) (hostPart c.host).toList
  rwa [← toList_address, String.ofList_toList, String.ofList_toList] at hsplit

/-- **A call goes to the host and the port** of the configuration, and nothing but the system
has anything against it. -/
theorem connect_eq {m : Type → Type} [Monad m] {Place Stream : Type}
    (sockets : Sockets m Place Stream) :
    c.connector.connect sockets =
      (do return (← sockets.reach c.connectTimeout ⟨hostPart c.host, c.port⟩).mapError .setback) := by
  have hsplit : Address.split c.connector.address = .ok ⟨hostPart c.host, c.port⟩ := by
    rw [connector_address]
    exact c.split_address
  rw [Connector.connect_of_split hsplit, connector_timeout]

variable {c}

/-- **Configurations of one address** have the same port and the same form of host. -/
theorem parts_of_address_eq {other : Config} (h : other.address = c.address) :
    other.port = c.port ∧ hostPart other.host = hostPart c.host := by
  have hsplit := other.split_address
  rw [h, c.split_address] at hsplit
  obtain ⟨hhost, hport⟩ := Address.mk.inj (Except.ok.inj hsplit)
  exact ⟨hport.symm, hhost.symm⟩

variable (c)

/-- No network has anything against the form of an address. -/
theorem refusal_ne_flaw (network : Network) (flaw : Address.Flaw) :
    network.refusal c.address ≠ some (.connect c.address flaw.message) := by
  rw [← connector_address, Network.refusal_eq_connect, connect_eq]
  intro hrefused
  cases hreach : Id.run (network.sockets.reach c.connectTimeout ⟨hostPart c.host, c.port⟩) with
  | ok stream =>
      simp only [Id.run_bind, hreach] at hrefused
      have hreached : none = some (LinkError.connect c.connector.address flaw.message) := hrefused
      exact absurd hreached (by simp)
  | error setback =>
      obtain ⟨impasse, rfl⟩ := Network.setback_of_reach hreach
      simp only [Id.run_bind, hreach] at hrefused
      exact Impasse.message_ne_flaw impasse flaw
        (LinkError.connect.inj (Option.some.inj hrefused)).2

/-- What holds of the address of a configuration. -/
structure WellAddressed (c : Config) : Prop where
  /-- Behind its last colon stands the port, and in front of that the host, in brackets once if
  the host needs them. -/
  parts : ∃ front back, c.address.toList = front ++ ':' :: back ∧ ':' ∉ back ∧
    Address.port? back = some c.port ∧
    front = if NeedsBrackets c.host then '[' :: c.host.toList ++ [']'] else c.host.toList
  /-- It is taken apart into them. -/
  split : Address.split c.address = .ok ⟨hostPart c.host, c.port⟩
  /-- No other configuration has it, but for one with the same port and, brackets aside, the
  same host. -/
  told_apart : ∀ other : Config, other.address = c.address → other.port = c.port ∧
    (other.host = c.host ∨ other.host = "[" ++ c.host ++ "]" ∨ c.host = "[" ++ other.host ++ "]")
  /-- Whatever the system does, and whatever it makes that depend on, a call to it does not fail
  for its form. -/
  called : ∀ {σ Place Stream : Type} (sockets : Sockets (StateM σ) Place Stream) (world : σ)
    (flaw : Address.Flaw), ((c.connector.connect sockets).run world).1 ≠ .error (.flaw flaw)
  /-- Nor is that said of it on either network. -/
  refused : ∀ network : Network,
    network.refusal c.address ≠ some (.connect c.address "invalid socket address") ∧
    network.refusal c.address ≠ some (.connect c.address "invalid port value")

/-- **Every configuration has a good address.** -/
theorem well_addressed (c : Config) : WellAddressed c := by
  constructor
  case parts =>
    refine ⟨_, _, c.toList_address, Address.colon_not_mem_toDigits c.port.toNat,
      Address.port?_toDigits c.port, ?_⟩
    rw [hostPart_eq]
    split
    · simp
    · rfl
  case split => exact c.split_address
  case told_apart =>
    intro other hsame
    obtain ⟨hport, hhost⟩ := parts_of_address_eq hsame
    exact ⟨hport, host_of_hostPart_eq hhost⟩
  case called =>
    intro σ Place Stream sockets world flaw hfailed
    rw [connect_eq] at hfailed
    -- What the system has against a call is never a flaw.
    obtain ⟨setback, _, hsetback⟩ := except_mapError_error_iff.mp hfailed
    simp at hsetback
  case refused =>
    exact fun network => ⟨c.refusal_ne_flaw network .noColon, c.refusal_ne_flaw network .badPort⟩

/-- A half bracket is taken for a whole one, and no host at all is a host. -/
example :
    ({ host := "fe80::1" } : Config).address = "[fe80::1]:15740" ∧
      ({ host := "[fe80::1" } : Config).address = "[fe80::1:15740" ∧
      ({ host := "", port := 0 } : Config).address = ":0" := by
  decide +kernel

end Config

end PictureTransfer
