import DeviceRegistry.Client.Basic
import DeviceRegistry.Proofs.Management.Handle
import DeviceRegistry.Proofs.Url.Extend

/-!
# `DeviceRegistry.Proofs.Client.Address`: where the credentials of a device are

A client addresses the credentials of a device by the path of the registry and four segments: the
version of the interface, the word `credentials`, the tenant and the device. A dot and two dots are
identifiers like any others, but no segments: they are left out. Main statements:

* `credentialsUrl_eq`: the URL for any two identifiers.
* `credentialsUrl_separates`: exactly the identifiers that are no dots stand in their URL, and then
  no other pair of identifiers has the same.
* `credentialsUrl_dots_collide`: two devices of different tenants that share a URL.
-/

set_option autoImplicit false

namespace DeviceRegistry

open DeviceRegistry.Management.Endpoint (IsId)
open DeviceRegistry.Url (IsSegment IsDot openEnd)

/-! ### Identifiers as segments -/

/-- An identifier is a segment of a path as it stands, or a dot or two: all of its characters are
among those that a path does not have to encode. -/
theorem Management.Endpoint.IsId.isSegment_or {s : String} (h : IsId s) :
    IsSegment s ∨ IsDot s := by
  by_cases hdot : IsDot s
  · exact .inr hdot
  · refine .inl ⟨fun c hc => ?_, h.1, fun hs => hdot (.inl hs), fun hs => hdot (.inr hs)⟩
    rcases h.2 c hc with hc | hc | hc | rfl | rfl | rfl | rfl | rfl
    · exact .inl hc
    · exact .inr (.inl hc)
    · exact .inr (.inr (.inl hc))
    all_goals decide

/-- No slash is part of an identifier, so the segments of a path can be told apart again in its
text. This is what keeps two devices from having one URL. -/
theorem Management.Endpoint.IsId.slash_notMem {s : String} (h : IsId s) : '/' ∉ s.toList := by
  intro hc
  have hslash := h.2 _ hc
  revert hslash
  decide

namespace Client

variable {c : Client} {items : List String} {t d : String}

/-- The URL of the credentials of a device is the registry's with its path and all segments that
are no dots. Dots are dropped when the path is extended, which is why `t` and `d` go through a
filter. -/
theorem credentialsUrl_eq (hpath : c.baseUrl.path = .segments items)
    (hversion : IsSegment c.apiVersion) (ht : IsId t) (hd : IsId d) :
    c.credentialsUrl t d = .ok { c.baseUrl with
      path := .segments (openEnd items ++ [c.apiVersion, "credentials"] ++
        [t, d].filter (¬ IsDot ·)) } := by
  have hword : IsSegment "credentials" := by decide
  have hrest : ∀ s ∈ ["credentials", t, d], IsSegment s ∨ IsDot s := by
    intro s hs
    simp only [List.mem_cons, List.not_mem_nil, or_false] at hs
    rcases hs with rfl | rfl | rfl
    · exact .inl hword
    · exact ht.isSegment_or
    · exact hd.isSegment_or
  have hkeep : ["credentials", t, d].filter (¬ IsDot ·) =
      "credentials" :: [t, d].filter (¬ IsDot ·) := by
    rw [List.filter_cons, if_pos (by decide)]
  rw [credentialsUrl, Url.extend_eq hpath hversion hrest, hkeep, List.append_assoc]
  rfl

/-- Both of two texts are left exactly when neither is a dot or two, so the path with all four
segments is that of the right device only then. -/
theorem filter_eq_pair_iff {t' d' : String} :
    [t', d'].filter (¬ IsDot ·) = [t, d] ↔ (t' = t ∧ d' = d) ∧ ¬ IsDot t ∧ ¬ IsDot d := by
  constructor
  · intro h
    -- Two of two are left, so nothing was taken out.
    have hlength : ([t', d'].filter (¬ IsDot ·)).length = [t', d'].length := by
      rw [h]
      rfl
    have hall := List.length_filter_eq_length_iff.1 hlength
    rw [List.filter_eq_self.2 hall] at h
    cases h
    simpa using hall
  · rintro ⟨⟨rfl, rfl⟩, ht, hd⟩
    simp [ht, hd]

/-- The URL of the credentials of a device, for identifiers that are segments. -/
def address (c : Client) (items : List String) (t d : String) : Url :=
  { c.baseUrl with path := .segments (openEnd items ++ [c.apiVersion, "credentials", t, d]) }

/-- The URL of a device is made of the registry's path and the four segments exactly when neither
identifier is a dot or two. No other identifiers then have a URL with the same text, as the segments
can be read off it. -/
theorem credentialsUrl_separates (hpath : c.baseUrl.path = .segments items)
    (hversion : IsSegment c.apiVersion) (ht : IsId t) (hd : IsId d) :
    (c.credentialsUrl t d = .ok (c.address items t d) ↔ ¬ IsDot t ∧ ¬ IsDot d) ∧
    (¬ IsDot t ∧ ¬ IsDot d → ∀ t' d' url, IsId t' → IsId d' → c.credentialsUrl t' d' = .ok url →
      url.render = (c.address items t d).render → t' = t ∧ d' = d) := by
  have haddress : c.address items t d = { c.baseUrl with
      path := .segments (openEnd items ++ [c.apiVersion, "credentials"] ++ [t, d]) } := by
    rw [address, List.append_assoc]
    rfl
  -- Reading the path back from the text needs segments without slashes, which identifiers are.
  have hslash : ∀ {t d : String}, IsId t → IsId d → ∀ s ∈ [t, d], '/' ∉ s.toList := by
    intro t d ht hd s hs
    simp only [List.mem_cons, List.not_mem_nil, or_false] at hs
    rcases hs with rfl | rfl
    · exact ht.slash_notMem
    · exact hd.slash_notMem
  rw [haddress]
  -- First which pairs are kept as they are, and then that no other pair has the same address.
  constructor
  · rw [credentialsUrl_eq hpath hversion ht hd]
    constructor
    · intro h
      have hitems := congrArg Url.path (Except.ok.inj h)
      simp only [UrlPath.segments.injEq, List.append_cancel_left_eq] at hitems
      exact (filter_eq_pair_iff.1 hitems).2
    · intro hdots
      rw [filter_eq_pair_iff.2 ⟨⟨rfl, rfl⟩, hdots⟩]
  · rintro - t' d' url ht' hd' hurl htext
    rw [credentialsUrl_eq hpath hversion ht' hd'] at hurl
    cases hurl
    have hkept : ∀ s ∈ [t', d'].filter (¬ IsDot ·), '/' ∉ s.toList := fun s hs =>
      hslash ht' hd' s (List.mem_filter.1 hs).1
    exact (filter_eq_pair_iff.1 (Url.eq_of_render_eq hkept (hslash ht hd) htext)).1

/-- A client of a registry below a path. -/
def acme : Client where
  baseUrl := { scheme := "https", host := some (.domain "h"), path := .segments ["api", ""] }

/-- The URL of an ordinary device, which it shares with no other. The identifier has all kinds of
characters that the pattern for identifiers admits. -/
theorem credentialsUrl_separates_acme :
    (acme.credentialsUrl "DEFAULT_TENANT" "org.acme:sensor=1").map Url.render =
      .ok "https://h/api/v1/credentials/DEFAULT_TENANT/org.acme:sensor=1" ∧
    ∀ t d url, IsId t → IsId d → acme.credentialsUrl t d = .ok url →
      url.render = "https://h/api/v1/credentials/DEFAULT_TENANT/org.acme:sensor=1" →
      t = "DEFAULT_TENANT" ∧ d = "org.acme:sensor=1" := by
  have ht : IsId "DEFAULT_TENANT" := Management.Endpoint.idPattern_isMatch_iff.1 rfl
  have hd : IsId "org.acme:sensor=1" := Management.Endpoint.idPattern_isMatch_iff.1 rfl
  have hversion : IsSegment acme.apiVersion := by decide
  have hdots : ¬ IsDot "DEFAULT_TENANT" ∧ ¬ IsDot "org.acme:sensor=1" := by decide
  obtain ⟨hiff, hseparate⟩ := credentialsUrl_separates (c := acme) rfl hversion ht hd
  refine ⟨?_, hseparate hdots⟩
  rw [hiff.2 hdots]
  rfl

/-- A device whose identifier is a dot shares its URL with a device of another tenant, and the
identifier does not stand in it: the registry cannot tell the two requests apart. -/
theorem credentialsUrl_dots_collide :
    IsId "." ∧ IsId "t" ∧ acme.credentialsUrl "t" "." = acme.credentialsUrl "." "t" ∧
    (acme.credentialsUrl "t" ".").map Url.render = .ok "https://h/api/v1/credentials/t" ∧
    acme.credentialsUrl "t" "." ≠ .ok (acme.address ["api", ""] "t" ".") := by
  have hdot : IsId "." := Management.Endpoint.idPattern_isMatch_iff.1 rfl
  have ht : IsId "t" := Management.Endpoint.idPattern_isMatch_iff.1 rfl
  have hversion : IsSegment acme.apiVersion := by decide
  -- Whichever of the two is the dot, it is left out.
  have hfirst : ["t", "."].filter (¬ IsDot ·) = ["t"] := by decide
  have hsecond : [".", "t"].filter (¬ IsDot ·) = ["t"] := by decide
  have hdevice := credentialsUrl_eq (c := acme) rfl hversion ht hdot
  have htenant := credentialsUrl_eq (c := acme) rfl hversion hdot ht
  rw [hfirst] at hdevice
  rw [hsecond] at htenant
  refine ⟨hdot, ht, hdevice.trans htenant.symm, ?_, ?_⟩
  · rw [hdevice]
    rfl
  · rw [hdevice]
    intro h
    have hitems := congrArg Url.path (Except.ok.inj h)
    revert hitems
    decide

end Client

end DeviceRegistry
