import Proximity.Proofs.Url.Segments
import Proximity.Sync.Endpoint

/-!
# The shape of the sync endpoint

Remote public credentials of an account are pulled from the base URL with `v1`, `accounts`,
the account and `public-credentials` added as segments, and the identity type added to the
query. The account is arbitrary text, so the question is what it can do to that URL.

It cannot touch the base: whatever the account, the URL keeps the base's scheme, authority,
fragment, query pairs and segments (less a trailing empty one), then `v1`, and it ends with
`public-credentials`. But the account is added by the URL's segment setter, which reads it as
path text: the texts `.` and `..` add no segment, tabs and newlines are dropped, and what is
left of `..` empties the `accounts` segment. So the endpoint has one segment standing for the
account exactly when the account is an ordinary segment text (`OrdinarySegment`).

**Results.**
* `syncEndpoint_of_segments`: the URL of an endpoint, from the base's segments.
* `syncEndpoint_shape_iff_ordinary`: what every account keeps, and when the endpoint has its
  meant shape (`EndpointShape`).
* `syncEndpoint_drops_dot_account`: the account `.` gets no segment at all.
-/

namespace Proximity

open Url

/-- Adding the account after `v1` and `accounts` keeps every segment up to `v1`, and leaves at
most two after it. -/
theorem pushSegment_after_v1 (special : Bool) (base : List String) (account : String) :
    ∃ mid, pushSegment special (base ++ ["v1", "accounts"]) account = base ++ "v1" :: mid ∧
      mid.length ≤ 2 := by
  obtain ⟨mid, hmid, hlen⟩ :=
    pushSegment_keeps_prefix special (base ++ ["v1"]) "accounts" account
      (ne_lone_empty_of_mem (s := "v1") (by simp) (by decide))
  exact ⟨mid, by simpa using hmid, hlen⟩

/-- The path of an endpoint: `v1` and `accounts` after the base's segments, then what adding
the account gives, then `public-credentials`. -/
theorem syncEndpoint_of_segments {base : Url} {ss : List String}
    (hbase : base.path = .segments ss) (account : String) (t : IdentityType) :
    syncEndpoint base account t =
      .ok (({ base with
        path := .segments (pushSegment (isSpecialScheme base.scheme)
          (baseSegments ss ++ ["v1", "accounts"]) account ++ ["public-credentials"]) } : Url)
        |>.appendPair "identity_type" t.name) := by
  have hv1 : PlainSegment "v1" := by decide
  have haccounts : PlainSegment "accounts" := by decide
  have hpc : PlainSegment "public-credentials" := by decide
  let special := isSpecialScheme base.scheme
  -- every segment after `v1` is added to a path holding `v1`, so never to a lone empty one
  have hfirst : pushSegment special (popIfEmpty ss) "v1" = baseSegments ss ++ ["v1"] := by
    rw [pushSegment_plain hv1]
    rfl
  have hsecond : pushSegment special (baseSegments ss ++ ["v1"]) "accounts" =
      baseSegments ss ++ ["v1", "accounts"] := by
    rw [pushSegment_plain haccounts,
      if_neg (ne_lone_empty_of_mem (s := "v1") (by simp) (by decide))]
    simp
  have hthird : pushSegment special (baseSegments ss ++ ["v1", "accounts"]) account ≠ [""] := by
    obtain ⟨mid, hmid, -⟩ := pushSegment_after_v1 special (baseSegments ss) account
    exact ne_lone_empty_of_mem (s := "v1") (by simp [hmid]) (by decide)
  unfold syncEndpoint withSegments
  rw [hbase]
  simp only [List.foldl_cons, List.foldl_nil]
  rw [hfirst, hsecond, pushSegment_plain hpc, if_neg hthird]

/-- The query pair an endpoint adds reads back as the identity type's name. -/
theorem formPairs_identityType (t : IdentityType) :
    formPairs (formEncode "identity_type" ++ "=" ++ formEncode t.name) =
      [("identity_type", t.name)] := by
  have hname : formEncode "identity_type" = "identity_type" := by decide
  have hvalue : formEncode t.name = t.name := by cases t <;> decide
  have hdecode : formDecode "identity_type" = "identity_type" := by decide +kernel
  have hdecode' : formDecode t.name = t.name := by cases t <;> decide +kernel
  have hplain : '&' ∉ t.name.toList ∧ '=' ∉ t.name.toList := by cases t <;> decide
  rw [hname, hvalue, formPairs_pair ⟨by decide, hplain.1⟩ ⟨by decide, hplain.2⟩, hdecode,
    hdecode']

/-- The shape the endpoint of an account is meant to have: the base's segments, then `v1`,
`accounts`, one segment standing for the account, and `public-credentials`. -/
def EndpointShape (base : List String) (account : String) (path : List String) : Prop :=
  ∃ seg, path = base ++ ["v1", "accounts", seg, "public-credentials"] ∧ Encodes seg account

/-- The endpoint of every account under a base URL whose path takes segments. It keeps the
base's scheme, authority and fragment, and adds one pair, the identity type, after the query's
pairs. Its path keeps the base's segments and `v1` in front and ends with
`public-credentials`, with at most two segments between, whatever the account; and it has the
meant shape, one segment standing for the account, exactly when the account is an ordinary
segment text. -/
theorem syncEndpoint_shape_iff_ordinary (base : Url) (ss : List String)
    (hbase : base.path = .segments ss) (account : String) (t : IdentityType) :
    ∃ u, syncEndpoint base account t = .ok u ∧
      u.scheme = base.scheme ∧ u.authority = base.authority ∧ u.fragment = base.fragment ∧
      u.queryPairs = base.queryPairs ++ [("identity_type", t.name)] ∧
      ∃ segs, u.path = .segments segs ∧
        (∃ mid, segs = baseSegments ss ++ "v1" :: mid ++ ["public-credentials"] ∧
          mid.length ≤ 2) ∧
        (EndpointShape (baseSegments ss) account segs ↔ OrdinarySegment account) := by
  let special := isSpecialScheme base.scheme
  let accounts := baseSegments ss ++ ["v1", "accounts"]
  let path := pushSegment special accounts account ++ ["public-credentials"]
  obtain ⟨q, hq⟩ := appendPair_frame ({ base with path := .segments path } : Url)
    "identity_type" t.name
  have hpairs := queryPairs_appendPair ({ base with path := .segments path } : Url)
    "identity_type" t.name
  rw [hq, formPairs_identityType] at hpairs
  refine ⟨_, (syncEndpoint_of_segments hbase account t).trans (congrArg Except.ok hq),
    rfl, rfl, rfl, hpairs, path, rfl, ?_, ?_⟩
  · -- the account changes nothing up to `v1`
    obtain ⟨mid, hmid, hlen⟩ := pushSegment_after_v1 special (baseSegments ss) account
    exact ⟨mid, by simp [path, accounts, hmid], hlen⟩
  · -- the meant shape is the account added to `accounts` as one segment standing for it
    have hne : accounts ≠ [""] :=
      ne_lone_empty_of_mem (s := "v1") (by simp [accounts]) (by decide)
    rw [← pushSegment_encodes_iff special hne account]
    constructor
    · rintro ⟨seg, hseg, henc⟩
      refine ⟨seg, List.append_cancel_right (hseg.trans ?_), henc⟩
      simp [accounts]
    · rintro ⟨seg, hseg, henc⟩
      refine ⟨seg, ?_, henc⟩
      simp [path, hseg, accounts]

/-- The base URL `https://sync.example/api`. -/
def apiBase : Url :=
  { scheme := "https", authority := some { host := .domain "sync.example" },
    path := .segments ["api"] }

theorem syncEndpoint_shape_for_alice :
    ∃ u segs, syncEndpoint apiBase "alice" .private_ = .ok u ∧ u.path = .segments segs ∧
      EndpointShape (baseSegments ["api"]) "alice" segs := by
  obtain ⟨u, hu, -, -, -, -, segs, hpath, -, hshape⟩ :=
    syncEndpoint_shape_iff_ordinary apiBase ["api"] rfl "alice" .private_
  exact ⟨u, segs, hu, hpath, hshape.2 (by decide)⟩

/-- The account `.` gets no segment: under `https://sync.example/api` its endpoint is
`https://sync.example/api/v1/accounts/public-credentials?identity_type=private`, with three
segments after the base's where four are meant. -/
theorem syncEndpoint_drops_dot_account :
    apiBase.toString = "https://sync.example/api" ∧
    ∃ u, syncEndpoint apiBase "." .private_ = .ok u ∧
      u.toString =
        "https://sync.example/api/v1/accounts/public-credentials?identity_type=private" ∧
      u.path = .segments ["api", "v1", "accounts", "public-credentials"] ∧
      ¬ EndpointShape ["api"] "." ["api", "v1", "accounts", "public-credentials"] := by
  refine ⟨by decide +kernel, _, rfl, by decide +kernel, by decide +kernel, ?_⟩
  rintro ⟨seg, h, -⟩
  simp at h

end Proximity
