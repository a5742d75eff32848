import Mathlib.Tactic.SplitIfs
import ShardRouting.Exporter
import ShardRouting.Proofs.Text.Base64

namespace ShardRouting

namespace Credential

def joined (c : Credential) : String := c.user ++ ":" ++ c.password

theorem header_eq_iff {c d : Credential} :
    c.header = d.header ↔ c.joined.toUTF8 = d.joined.toUTF8 := by
  rw [header, header, String.append_right_inj, String.ofList_inj, Base64.encode_injective.eq_iff,
    Array.toList_inj, ← ByteArray.ext_iff]
  rfl

theorem toList_joined (c : Credential) :
    c.joined.toList = c.user.toList ++ ':' :: c.password.toList := by
  simp [joined]

theorem takeWhile_joined {c : Credential} (h : ':' ∉ c.user.toList) :
    c.joined.toList.takeWhile (· ≠ ':') = c.user.toList := by
  rw [toList_joined, List.takeWhile_append_of_pos]
  · simp
  · intro x hx
    exact decide_eq_true fun hcolon => h (hcolon ▸ hx)

theorem joined_eq_iff {c d : Credential} (hc : ':' ∉ c.user.toList) (hd : ':' ∉ d.user.toList) :
    c.joined = d.joined ↔ c = d := by
  constructor
  · intro h
    have huser : c.user = d.user := by
      rw [← String.toList_inj, ← takeWhile_joined hc, ← takeWhile_joined hd, h]
    have hpassword : c.password = d.password := by
      rwa [joined, joined, huser, String.append_right_inj] at h
    cases c
    cases d
    exact congr (congrArg mk huser) hpassword
  · exact congrArg joined

theorem isHeaderChar_of_mem {c : Credential} {x : Char} (h : x ∈ c.header.toList) :
    ScrapeRequest.isHeaderChar x := by
  have hscheme : "Basic ".toList.all ScrapeRequest.isHeaderChar := by decide
  have hdigit : ∀ n < 64, ScrapeRequest.isHeaderChar (Base64.digit n) := by decide
  simp only [header, String.toList_append, String.toList_ofList, List.mem_append] at h
  rcases h with h | h
  · exact List.all_eq_true.mp hscheme x h
  · rcases Base64.mem_encode h with rfl | ⟨n, hn, rfl⟩
    · decide
    · exact hdigit n hn

end Credential

theorem ScrapeRequest.credentials?_eq_header_iff {r : ScrapeRequest} {c : Credential} :
    r.credentials? = some c.header ↔ r.authorization.head? = some c.header := by
  -- a value that is no plain text is passed over, which no configured header is
  rw [credentials?, Option.filter_eq_some_iff]
  exact and_iff_left (List.all_eq_true.mpr fun _ => Credential.isHeaderChar_of_mem)

namespace Exporter

def guarded (c : Credential) : Exporter := ⟨some c⟩

theorem admits_guarded {c : Credential} {r : ScrapeRequest} :
    (guarded c).admits r ↔ r.authorization.head? = some c.header := by
  rw [← ScrapeRequest.credentials?_eq_header_iff]
  exact decide_eq_true_iff

section Answer

variable {c d : Credential} {registered : List MetricFamily} {r : ScrapeRequest}

theorem respond_guarded (c : Credential) (registered : List MetricFamily) (r : ScrapeRequest) :
    (guarded c).respond registered r =
      if r.path ≠ "/metrics" then ⟨.notFound, []⟩
      else if r.authorization.head? = some c.header then
        ⟨.ok, if r.method = "HEAD" then [] else MetricFamily.all.filter (· ∈ registered)⟩
      else ⟨.unauthorized, []⟩ := by
  simp only [respond, admits_guarded]

theorem code_respond (c : Credential) (registered : List MetricFamily) (r : ScrapeRequest) :
    ((guarded c).respond registered r).status.code =
      if r.path ≠ "/metrics" then 404
      else if r.authorization.head? = some c.header then 200
      else 401 := by
  rw [respond_guarded]
  split_ifs <;> rfl

theorem code_eq_404_iff :
    ((guarded c).respond registered r).status.code = 404 ↔ r.path ≠ "/metrics" := by
  rw [code_respond]
  split_ifs with hpath hheader <;> simp [hpath]

theorem code_eq_401_iff : ((guarded c).respond registered r).status.code = 401 ↔
    r.path = "/metrics" ∧ r.authorization.head? ≠ some c.header := by
  rw [code_respond]
  split_ifs with hpath hheader
  · simp [hpath]
  · simp [hheader]
  · simpa [hheader] using hpath

theorem code_eq_200_iff : ((guarded c).respond registered r).status.code = 200 ↔
    r.path = "/metrics" ∧ r.authorization.head? = some c.header := by
  rw [code_respond]
  split_ifs with hpath hheader
  · simp [hpath]
  · simpa [hheader] using hpath
  · simp [hheader]

theorem page_respond (c : Credential) (registered : List MetricFamily) (r : ScrapeRequest) :
    ((guarded c).respond registered r).page =
      if ((guarded c).respond registered r).status.code = 200 ∧ r.method ≠ "HEAD" then
        MetricFamily.all.filter (· ∈ registered)
      else [] := by
  rw [code_respond, respond_guarded]
  by_cases hpath : r.path = "/metrics"
  · by_cases hheader : r.authorization.head? = some c.header
    · by_cases hmethod : r.method = "HEAD" <;> simp [hpath, hheader, hmethod]
    · simp [hpath, hheader]
  · simp [hpath]

theorem code_eq_200_iff_of_header (hpath : r.path = "/metrics")
    (hheader : r.authorization.head? = some d.header) :
    ((guarded c).respond registered r).status.code = 200 ↔ c.joined.toUTF8 = d.joined.toUTF8 := by
  rw [code_eq_200_iff, hheader, Option.some.injEq, and_iff_right hpath, eq_comm,
    Credential.header_eq_iff]

end Answer

/-- The registered counters are shown on their page alone, and there to exactly the requests that
carry the header of the configured credential `c`. The header of a credential `d` serves as well when
user, colon and password make the text that they make in `c`; where no user has a colon, `d` is `c`.
-/
theorem shown_to_configured_credential (c : Credential) (registered : List MetricFamily) :
    (∀ r : ScrapeRequest,
      (((guarded c).respond registered r).status.code = 404 ↔ r.path ≠ "/metrics") ∧
      (((guarded c).respond registered r).status.code = 401 ↔
        r.path = "/metrics" ∧ r.authorization.head? ≠ some c.header) ∧
      (((guarded c).respond registered r).status.code = 200 ↔
        r.path = "/metrics" ∧ r.authorization.head? = some c.header) ∧
      ((guarded c).respond registered r).page =
        if ((guarded c).respond registered r).status.code = 200 ∧ r.method ≠ "HEAD" then
          MetricFamily.all.filter (· ∈ registered)
        else []) ∧
    ∀ (d : Credential) (r : ScrapeRequest), r.path = "/metrics" →
      r.authorization.head? = some d.header →
      (((guarded c).respond registered r).status.code = 200 ↔ c.joined.toUTF8 = d.joined.toUTF8) ∧
      (':' ∉ c.user.toList → ':' ∉ d.user.toList →
        (((guarded c).respond registered r).status.code = 200 ↔ c = d)) := by
  constructor
  · intro r
    exact ⟨code_eq_404_iff, code_eq_401_iff, code_eq_200_iff, page_respond c registered r⟩
  · intro d r hpath hheader
    refine ⟨code_eq_200_iff_of_header hpath hheader, ?_⟩
    intro hc hd
    rw [code_eq_200_iff_of_header hpath hheader, ← Credential.joined_eq_iff hc hd]
    exact String.toByteArray_inj

def requestWith (c : Credential) : ScrapeRequest := ⟨"GET", "/metrics", [c.header]⟩

theorem path_requestWith (c : Credential) : (requestWith c).path = "/metrics" := by
  simp [ScrapeRequest.path, ScrapeRequest.withoutHost, ScrapeRequest.isSchemeChar, requestWith]

theorem shown_to_configured_credential_admin :
    ((guarded ⟨"admin", "secret"⟩).respond MetricFamily.all
        (requestWith ⟨"admin", "Secret"⟩)).status.code ≠ 200 ∧
      ((guarded ⟨"a", "b:c"⟩).respond MetricFamily.all
        (requestWith ⟨"a:b", "c"⟩)).status.code = 200 := by
  constructor
  · obtain ⟨-, hsame⟩ := (shown_to_configured_credential ⟨"admin", "secret"⟩ MetricFamily.all).2
      ⟨"admin", "Secret"⟩ (requestWith ⟨"admin", "Secret"⟩) (path_requestWith _) rfl
    rw [Ne, hsame (by decide) (by decide)]
    decide
  · obtain ⟨hsame, -⟩ := (shown_to_configured_credential ⟨"a", "b:c"⟩ MetricFamily.all).2
      ⟨"a:b", "c"⟩ (requestWith ⟨"a:b", "c"⟩) (path_requestWith _) rfl
    exact hsame.mpr rfl

end Exporter

end ShardRouting
