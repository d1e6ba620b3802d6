import FacilitatorX402.Proof.AddressPatterns

/-!
# Which addresses a webhook can reach

A url that passes names no reserved IPv4 address, and no name that resolves to one. What is missed are
IPv6 addresses: every literal, and of the answers of the resolver those that no pattern names.
-/

namespace FacilitatorX402.Ssrf

open CharPattern IpAddress

/-- The reserved IPv6 addresses that match no pattern: fc01:: to fcff::, fe81:: to febf::, and the
mapped forms of reserved IPv4 addresses. -/
def Missed6 (ip : Ipv6) : Prop :=
  (ip.first / 512 = 0xfc00 / 512 ∧ ip.first ≠ 0xfc00 ∧ ip.first / 256 ≠ 0xfd) ∨
    (ip.first / 64 = 0xfe80 / 64 ∧ ip.first ≠ 0xfe80) ∨ ip.IsMapped ∧ Reserved4 ip.embedded

instance (ip : Ipv6) : Decidable (Missed6 ip) := inferInstanceAs (Decidable (_ ∨ _))

def DnsAnswers.a (answers : DnsAnswers) : List Ipv4 := answers.resolve4.toOption.getD []

def DnsAnswers.aaaa (answers : DnsAnswers) : List Ipv6 := answers.resolve6.toOption.getD []

/-- The host is not a literal of a reserved address. -/
def UrlHost.Safe : UrlHost → Prop
  | .domain _ => True
  | .ipv4 ip => ¬ Reserved4 ip
  | .ipv6 ip => ¬ Reserved6 ip

/-- What a url must be for the check to resolve. -/
def Sound (world : UrlWorld) (rawUrl : String) : Prop :=
  assertSafeWebhookUrl world rawUrl = .ok () →
    ∃ url, world.parse rawUrl = some url ∧ url.protocol = "https:" ∧ url.host.Safe ∧
      (∀ ip ∈ (world.dns url.host.hostname).a, ¬ Reserved4 ip) ∧
        ∀ ip ∈ (world.dns url.host.hostname).aaaa, ¬ Reserved6 ip

/-- The name of a host that the check refuses as it stands. -/
def UrlHost.Refused : UrlHost → Prop
  | .domain name => isPrivateOrReservedIp name = true
  | .ipv4 ip => Reserved4 ip
  | .ipv6 _ => False

/-- The check refuses the url for its protocol, its port, its host or an address that it recognises. -/
def Caught (url : ParsedUrl) (answers : DnsAnswers) : Prop :=
  url.protocol ≠ "https:" ∨ url.port.getD 443 ∈ blockedPorts ∨ url.host.Refused ∨
    (∃ ip ∈ answers.a, Reserved4 ip) ∨ ∃ ip ∈ answers.aaaa, Seen6 ip

/-- No reserved IPv6 address comes as a literal, or unrecognised as an answer. -/
def NoneMissed (url : ParsedUrl) (answers : DnsAnswers) : Prop :=
  (∀ ip, url.host = .ipv6 ip → ¬ Reserved6 ip) ∧ ∀ ip ∈ answers.aaaa, ¬ Missed6 ip

theorem first_of_isMapped {ip : Ipv6} (h : ip.IsMapped) : ip.first = 0 := by
  obtain ⟨a, b, c, d, e, f, g, h', hgroups⟩ := ip.groups_eq
  rw [Ipv6.IsMapped, hgroups] at h
  rw [first_of_groups hgroups, (List.cons.inj h).1]
  rfl

/-- A reserved address is recognised or missed. -/
theorem reserved6_iff (ip : Ipv6) : Reserved6 ip ↔ Seen6 ip ∨ Missed6 ip := by
  have hloopback : ip = Ipv6.loopback → ip.first = 0 := fun h => h ▸ rfl
  have hmapped : ip.IsMapped → ip.first = 0 := first_of_isMapped
  unfold Reserved6 Seen6 Missed6
  constructor
  · rintro (h | h | h | h)
    · exact .inl (.inl h)
    · by_cases hfirst : ip.first = 0xfe80
      · exact .inl (.inr (.inr (.inr hfirst)))
      · exact .inr (.inr (.inl ⟨h, hfirst⟩))
    · by_cases hfirst : ip.first = 0xfc00
      · exact .inl (.inr (.inl hfirst))
      · by_cases hunique : ip.first / 256 = 0xfd
        · exact .inl (.inr (.inr (.inl hunique)))
        · exact .inr (.inl ⟨h, hfirst, hunique⟩)
    · exact .inr (.inr (.inr h))
  · rintro ((h | h | h | h) | h | h | h)
    · exact .inl h
    · exact .inr (.inr (.inl (by omega)))
    · exact .inr (.inr (.inl (by omega)))
    · exact .inr (.inl (by omega))
    · exact .inr (.inr (.inl h.1))
    · exact .inr (.inl h.1)
    · exact .inr (.inr (.inr h))

theorem refused_iff (host : UrlHost) : isPrivateOrReservedIp host.hostname = true ↔ host.Refused := by
  cases host with
  | domain name => exact Iff.rfl
  | ipv4 ip => exact isPrivate_ipv4_iff ip
  | ipv6 ip => simp [isPrivate_bracketed, UrlHost.Refused]

theorem find?_texts_eq_none_iff (answers : DnsAnswers) :
    answers.texts.find? isPrivateOrReservedIp = none ↔
      ¬ ((∃ ip ∈ answers.a, Reserved4 ip) ∨ ∃ ip ∈ answers.aaaa, Seen6 ip) := by
  rw [List.find?_eq_none]
  constructor
  · rintro h (⟨ip, hip, hreserved⟩ | ⟨ip, hip, hseen⟩)
    · exact h _ (List.mem_append_left _ (List.mem_map_of_mem hip)) ((isPrivate_ipv4_iff ip).mpr hreserved)
    · exact h _ (List.mem_append_right _ (List.mem_map_of_mem hip)) ((isPrivate_ntop_iff ip).mpr hseen)
  · intro h text htext hmatch
    rcases List.mem_append.mp htext with htext | htext
    · obtain ⟨ip, hip, rfl⟩ := List.mem_map.mp htext
      exact h (.inl ⟨ip, hip, (isPrivate_ipv4_iff ip).mp hmatch⟩)
    · obtain ⟨ip, hip, rfl⟩ := List.mem_map.mp htext
      exact h (.inr ⟨ip, hip, (isPrivate_ntop_iff ip).mp hmatch⟩)

/-- The check resolves exactly on the urls that are not caught. -/
theorem assertSafe_ok_iff (world : UrlWorld) (rawUrl : String) :
    assertSafeWebhookUrl world rawUrl = .ok () ↔
      ∃ url, world.parse rawUrl = some url ∧ ¬ Caught url (world.dns url.host.hostname) := by
  cases hparse : world.parse rawUrl with
  | none => simp [assertSafeWebhookUrl, hparse]
  | some url =>
      simp only [assertSafeWebhookUrl, hparse, Option.some.injEq, exists_eq_left', Caught]
      by_cases hprotocol : url.protocol ≠ "https:"
      · simp [hprotocol]
      by_cases hport : url.port.getD 443 ∈ blockedPorts
      · simp [hprotocol, hport]
      by_cases hhost : url.host.Refused
      · simp [hprotocol, hport, hhost, (refused_iff url.host).mpr hhost]
      have hname : ¬ isPrivateOrReservedIp url.host.hostname = true :=
        mt (refused_iff url.host).mp hhost
      rw [if_neg hprotocol, if_neg hport, if_neg hname]
      cases hfind : (world.dns url.host.hostname).texts.find? isPrivateOrReservedIp with
      | none =>
          have hnone := (find?_texts_eq_none_iff _).mp hfind
          simp only [true_iff]
          rintro (h | h | h | h)
          · exact hprotocol h
          · exact hport h
          · exact hhost h
          · exact hnone h
      | some addr =>
          have hne : (world.dns url.host.hostname).texts.find? isPrivateOrReservedIp ≠ none := by
            simp [hfind]
          have hsome := mt (find?_texts_eq_none_iff _).mpr hne
          refine iff_of_false (fun h => by cases h) fun h => h (.inr (.inr (.inr ?_)))
          exact not_not.mp hsome

/-- The check is sound for a url exactly when the url is caught, or no reserved IPv6 address comes as
a literal or unrecognised as an answer. -/
theorem sound_iff (world : UrlWorld) (rawUrl : String) :
    Sound world rawUrl ↔
      ∀ url, world.parse rawUrl = some url →
        Caught url (world.dns url.host.hostname) ∨ NoneMissed url (world.dns url.host.hostname) := by
  rw [Sound, assertSafe_ok_iff]
  constructor
  · intro h url hparse
    by_cases hcaught : Caught url (world.dns url.host.hostname)
    · exact .inl hcaught
    · obtain ⟨url', hparse', -, hhost, -, haaaa⟩ := h ⟨url, hparse, hcaught⟩
      obtain rfl : url = url' := Option.some.inj (hparse.symm.trans hparse')
      refine .inr ⟨?_, fun ip hip hmissed => haaaa ip hip ((reserved6_iff ip).mpr (.inr hmissed))⟩
      intro ip hliteral
      rw [hliteral] at hhost
      exact hhost
  · rintro h ⟨url, hparse, hcaught⟩
    obtain ⟨hliteral, hmissed⟩ := (h url hparse).resolve_left hcaught
    simp only [Caught, not_or, not_exists, not_and] at hcaught
    obtain ⟨hprotocol, -, hrefused, ha, hseen⟩ := hcaught
    refine ⟨url, hparse, not_not.mp hprotocol, ?_, ha, fun ip hip hreserved => ?_⟩
    · cases hhost : url.host with
      | domain name => trivial
      | ipv4 ip =>
          rw [hhost] at hrefused
          exact hrefused
      | ipv6 ip => exact hliteral ip hhost
    · exact ((reserved6_iff ip).mp hreserved).elim (hseen ip hip) (hmissed ip hip)

/-! ## Addresses that are missed -/

/-- A parser that knows one url, and a resolver with one answer. -/
def sampleWorld (url : ParsedUrl) (aaaa : List Ipv6) : UrlWorld where
  parse _ := some url
  dns _ := { resolve4 := .ok [], resolve6 := .ok aaaa }

def loopbackUrl : ParsedUrl :=
  { protocol := "https:", port := none, host := .ipv6 Ipv6.loopback }

def namedUrl : ParsedUrl :=
  { protocol := "https:", port := none, host := .domain "rebind.example.com" }

/-- `::ffff:127.0.0.1`. -/
def mappedLoopback : Ipv6 := ⟨[0, 0, 0, 0, 0, 0xffff, 0x7f00, 1], rfl⟩

theorem not_sound :
    ¬ Sound (sampleWorld loopbackUrl []) "https://[::1]/" ∧
      ¬ Sound (sampleWorld namedUrl [mappedLoopback]) "https://rebind.example.com/" := by
  have hliteral : assertSafeWebhookUrl (sampleWorld loopbackUrl []) "https://[::1]/" = .ok () := by
    rfl
  have hanswer : assertSafeWebhookUrl (sampleWorld namedUrl [mappedLoopback])
      "https://rebind.example.com/" = .ok () := by
    rfl
  constructor
  · intro h
    obtain ⟨url, hparse, -, hsafe, -⟩ := h hliteral
    obtain rfl : loopbackUrl = url := Option.some.inj hparse
    exact hsafe (.inl rfl)
  · intro h
    obtain ⟨url, hparse, -, -, -, haaaa⟩ := h hanswer
    exact haaaa mappedLoopback List.mem_cons_self (by decide)

end FacilitatorX402.Ssrf
