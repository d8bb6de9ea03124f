import StoreGate.Proofs.Url.Host

/-!
# Frontends that can be reached

A frontend is written as a host and a port, and is taken as it is written but for its decoration: the
host is not looked into. So a text may be accepted whose host is none. Its address is then read
otherwise than it was written, or not at all.

* `Endpoint.IsWritten`, `Endpoint.isWritten_of_parse` — where host and port come from.
* `Endpoint.IsReachable` — host and port are what the address is read with.
* `frontend_reachable_iff` — of the frontends that are accepted, those whose host is one.
* `unreachable_frontends_accepted` — two that are accepted and are not.
-/

namespace StoreGate

namespace Endpoint

/-! ## Host and port -/

/-- The host and the port are what the text says before and after its last colon. A text without a
colon is a host, with the default port. -/
def IsWritten (cs : List Char) (defaultPort : Nat) (e : Endpoint) : Prop :=
  (':' ∉ cs ∧ e.host.toList = cs ∧ e.port = defaultPort) ∨
    ∃ port, cs = e.host.toList ++ ':' :: port ∧ ':' ∉ port ∧
      Decimal.readNatUpTo? greatestPort port = some e.port

variable {cs : List Char} {e : Endpoint}

theorem splitPort?_eq_none (h : splitPort? cs = none) : ':' ∉ cs := by
  unfold splitPort? at h
  dsimp only at h
  split at h
  · cases h
  · next hrest =>
    intro hmem
    have hall := List.dropWhile_eq_nil_iff.1 hrest ':' (List.mem_reverse.2 hmem)
    exact absurd hall (by decide)

theorem splitPort?_eq_some {host port : List Char} (h : splitPort? cs = some (host, port)) :
    cs = host ++ ':' :: port ∧ ':' ∉ port := by
  unfold splitPort? at h
  dsimp only at h
  split at h
  · next mark before hrest =>
    obtain ⟨rfl, rfl⟩ := Prod.mk.inj (Option.some.inj h)
    have hmark : mark = ':' := by
      have hhead := List.head?_dropWhile_not (fun c => c != ':') cs.reverse
      rw [hrest] at hhead
      simpa using hhead
    have hcut := List.takeWhile_append_dropWhile (p := fun c => c != ':') (l := cs.reverse)
    rw [hrest, hmark] at hcut
    refine ⟨?_, fun hmem => ?_⟩
    · calc cs = cs.reverse.reverse := (List.reverse_reverse cs).symm
        _ = (cs.reverse.takeWhile (fun c => c != ':') ++ ':' :: before).reverse := by rw [hcut]
        _ = before.reverse ++ ':' :: (cs.reverse.takeWhile fun c => c != ':').reverse := by simp
    · have hne := List.mem_takeWhile_imp (List.mem_reverse.1 hmem)
      exact absurd hne (by decide)
  · cases h

theorem isWritten_of_hostAndPort {defaultPort : Nat} {host : String} {port : Nat}
    (h : hostAndPort defaultPort cs = .ok (host, port)) (role : EndpointRole) :
    IsWritten cs defaultPort ⟨host, port, role⟩ := by
  unfold hostAndPort at h
  split at h
  · next hsplit =>
    obtain ⟨rfl, rfl⟩ := Prod.mk.inj (Except.ok.inj h)
    exact .inl ⟨splitPort?_eq_none hsplit, String.toList_ofList, rfl⟩
  · next before after hsplit =>
    split at h
    · next n hread =>
      obtain ⟨rfl, rfl⟩ := Prod.mk.inj (Except.ok.inj h)
      obtain ⟨hcs, hport⟩ := splitPort?_eq_some hsplit
      exact .inr ⟨after, by rw [String.toList_ofList, hcs], hport, hread⟩
    · cases h

/-- **Where host and port come from**: the text without blanks around it, scheme and slashes. -/
theorem isWritten_of_parse {raw : String} {defaultPort : Nat} {role : EndpointRole}
    (h : parse raw defaultPort role = .ok e) :
    e.role = role ∧ ∃ rest, withoutScheme (Text.trimChars raw.toList) = .ok rest ∧
      e.IsWritten (dropSlashes rest) defaultPort := by
  unfold parse parseChars at h
  split at h
  · cases h
  · next rest hrest =>
    dsimp only at h
    split at h
    · cases h
    · obtain ⟨⟨host, port⟩, hread, rfl⟩ := exceptMap_eq_ok.1 h
      exact ⟨rfl, rest, hrest, isWritten_of_hostAndPort hread role⟩

theorem IsWritten.port_le {defaultPort : UInt16} (h : e.IsWritten cs defaultPort.toNat) :
    e.port ≤ greatestPort := by
  rcases h with ⟨-, -, hport⟩ | ⟨port, -, -, hread⟩
  · have hlt := defaultPort.toNat_lt
    rw [hport]
    exact Nat.le_of_lt_succ hlt
  · exact (Decimal.readNatUpTo?_eq_some hread).1

/-! ## Addresses -/

/-- There is a host, in one piece, with colons between brackets only, and the address of the endpoint
is read with this host and this port. -/
structure IsReachable (e : Endpoint) : Prop where
  host_ne : e.host ≠ ""
  no_slash : '/' ∉ e.host.toList
  no_blank : ∀ c ∈ e.host.toList, Text.isBlank c = false
  colon : ':' ∈ e.host.toList → Host.Bracketed e.host.toList
  address : ∃ url, Url.parse e.baseUrl = .ok url ∧ url.IsAt e

/-- **An endpoint whose host is one** can be reached. -/
theorem isReachable_of_host {host : Host} (hhost : Host.parse e.host.toList = .ok host)
    (hport : e.port ≤ greatestPort) : e.IsReachable where
  host_ne hempty := by
    rw [hempty] at hhost
    cases hhost
  no_slash hmem := absurd (Url.uncut_of_host hhost hmem).2.2.1 (by decide)
  no_blank c hc := (Url.uncut_of_host hhost hc).2.2.2
  colon hmem := Host.bracketed_of_mem hhost (.inl hmem)
  address := ⟨_, Url.parse_origin hhost hport (Url.baseUrl_toList e), rfl, rfl, rfl,
    ⟨host, hhost, rfl⟩, rfl, rfl⟩

end Endpoint

/-- **A frontend that is accepted** has the host and the port that it was written with, and it can be
reached exactly if the host is one: a name, a number of four bytes, or eight pieces between
brackets. -/
theorem frontend_reachable_iff {raw : String} {defaultPort : UInt16} {role : EndpointRole}
    {e : Endpoint} (h : Endpoint.parse raw defaultPort.toNat role = .ok e) :
    (e.role = role ∧ ∃ rest, Endpoint.withoutScheme (Text.trimChars raw.toList) = .ok rest ∧
      e.IsWritten (Endpoint.dropSlashes rest) defaultPort.toNat) ∧
    (e.IsReachable ↔ ∃ host, Host.parse e.host.toList = .ok host) := by
  have hwritten := Endpoint.isWritten_of_parse h
  refine ⟨hwritten, fun hreach => ?_, fun ⟨host, hhost⟩ => ?_⟩
  · obtain ⟨url, -, hat⟩ := hreach.address
    obtain ⟨host, hhost, -⟩ := hat.host
    exact ⟨host, hhost⟩
  · obtain ⟨-, rest, -, hrest⟩ := hwritten
    exact Endpoint.isReachable_of_host hhost hrest.port_le

/-- A decorated frontend whose host has colons. -/
theorem frontend_reachable_iff_of_bracketed :
    Endpoint.parse " HTTP://[::1]:9030/ " (8030 : UInt16).toNat .load = .ok ⟨"[::1]", 9030, .load⟩ ∧
      (⟨"[::1]", 9030, .load⟩ : Endpoint).IsReachable := by
  have hparse : Endpoint.parse " HTTP://[::1]:9030/ " (8030 : UInt16).toNat .load =
      .ok ⟨"[::1]", 9030, .load⟩ := by
    decide +kernel
  have hhost : Host.parse "[::1]".toList = .ok (.ipv6 [0, 0, 0, 0, 0, 0, 0, 1]) := by
    decide +kernel
  exact ⟨hparse, (frontend_reachable_iff hparse).2.2 ⟨_, hhost⟩⟩

/-- Not every frontend that is accepted can be reached: a port without a host makes no address, and
a host with a path makes the address of another port. -/
theorem unreachable_frontends_accepted :
    (Endpoint.parse ":8030" 8030 .query = .ok ⟨"", 8030, .query⟩ ∧
      Url.parse (⟨"", 8030, .query⟩ : Endpoint).baseUrl = .error .emptyHost ∧
      ¬ (⟨"", 8030, .query⟩ : Endpoint).IsReachable) ∧
    (Endpoint.parse "fe1/a:9030" 8030 .query = .ok ⟨"fe1/a", 9030, .query⟩ ∧
      Url.parse (⟨"fe1/a", 9030, .query⟩ : Endpoint).baseUrl =
        .ok ⟨"http", "", "", some (.domain "fe1"), none, ["a:9030"], none, none⟩ ∧
      ¬ (⟨"fe1/a", 9030, .query⟩ : Endpoint).IsReachable) := by
  refine ⟨⟨by decide +kernel, by decide +kernel, fun h => h.host_ne rfl⟩,
    by decide +kernel, by decide +kernel, fun h => h.no_slash (by decide)⟩

end StoreGate
