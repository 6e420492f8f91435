import ContractBuild.Build.Service
import ContractBuild.Proofs.Build.Report
import ContractBuild.Proofs.Build.Result
import ContractBuild.Proofs.Build.Supervision

/-!
# Native or remote

Which of the two ways a request to compile takes, and what it is answered with. The sandbox is asked
only if the tool is missing and the caller agrees, and then once; its successes are placeholders,
and those of the tool are not.

Main statement: `CompileRequest.answers_of_returns`.
-/

set_option autoImplicit false

namespace ContractBuild

/-! ## The sandbox -/

namespace Sandbox

open Run

theorem posts_post (r : Request) : Posts [r] (post r) := by
  have hreply : Posts [] nextReply := posts_of_trace fun h => by rw [on_nextReply]
  exact (posts_note (.posted r)).bind fun _ => hreply

/-- What the service reports is judged only if its error stream is a text. -/
theorem judge_cases (source : Text) (stdout stderr : Json) :
    (∃ t, stderr = .text t) ∨ ∃ e, judge source stdout stderr = throw e := by
  cases stderr with
  | text t => exact .inl ⟨t, rfl⟩
  | _ => exact .inr ⟨_, rfl⟩

theorem posts_judge (source : Text) (stdout stderr : Json) :
    Posts [] (judge source stdout stderr) := by
  have hpure : ∀ result : BuildResult, Posts [] (pure result : Run BuildResult) :=
    fun result => posts_of_trace fun h => by rw [on_pure]
  rcases judge_cases source stdout stderr with ⟨t, rfl⟩ | ⟨e, he⟩
  · rw [judge]
    split
    · exact (posts_log _ _).bind fun _ => hpure _
    · have hplaceholder : Posts [] (Run.answer .output (placeholder source stdout)) :=
        posts_of_trace fun h => by rw [on_answer]
      exact hplaceholder.bind fun _ => hpure _
  · rw [he]
    exact posts_of_trace fun h => by rw [on_throw]

/-- A remote compilation posts one request, which carries the source. -/
theorem posts_compile (s : Settings) (source : Text) :
    Posts [request s source] (compile s source) := by
  refine (posts_post _).bind fun reply => ?_
  cases Outcome.ofReply reply with
  | overrun => exact (posts_log _ _).bind fun _ => posts_of_trace fun _ => rfl
  | failed reason => exact (posts_log _ _).bind fun _ => posts_of_trace fun _ => rfl
  | refused reason => exact posts_of_trace fun _ => rfl
  | body fields =>
    have hreported : ∀ stdout stderr, Posts [] (note (.reported stdout stderr)) :=
      fun _ _ => posts_note _
    exact (hreported _ _).bind fun _ => posts_judge _ _ _

end Sandbox

/-! ## Results of either kind -/

/-- A result that the tool itself comes to: its successes are no placeholders, and its failures have
other reasons than that it is missing. -/
def BuildResult.IsNative : BuildResult → Prop
  | .success b => b.placeholder = false
  | .failure f => f.kind ≠ .toolchainUnavailable

/-- A result that the sandbox comes to. -/
def BuildResult.IsRemote : BuildResult → Prop
  | .success b => b.placeholder = true
  | .failure f => f.kind ≠ .toolchainUnavailable

open Run

/-- The sandbox has placeholders only, and never tells that the tool is missing. -/
theorem Sandbox.isRemote_of_comesTo {result : BuildResult} (hc : ComesTo result) :
    result.IsRemote := by
  cases hc with
  | stopped _ hkind => rcases hkind with rfl | rfl <;> rintro ⟨⟩
  | failed stderr =>
    rw [BuildResult.IsRemote]
    cases Diagnostic.parseFlat .error stderr <;> rintro ⟨⟩
  | succeeded text stderr => rfl

namespace Toolchain

open Workspace

/-- The tool makes no placeholders, and its failures never are that it is missing. -/
theorem closed_isNative : Closed (fun _ => True) BuildResult.IsNative where
  start := trivial
  handOn _ _ := trivial
  reported _ _ _ := by rintro ⟨⟩
  artifactMissing _ _ := by rintro ⟨⟩
  packaged _ hplaceholder _ := hplaceholder
  stopped _ hkind := by rcases hkind with rfl | rfl <;> rintro ⟨⟩

/-- A compilation that returns has a result of the tool, or it tells that the tool does not
answer. -/
theorem compile_result {s : Settings} {source project : Text} {h h' : Host} {result : BuildResult}
    (hr : (compile s source project).on h = (.ok result, h')) :
    ToolAnswers s h ∧ result.IsNative ∨
      ¬ ToolAnswers s h ∧ result = .failure (.ofError missingDiagnostic .toolchainUnavailable) := by
  have hu : Used h 0 h.files h := ⟨rfl, rfl, List.Subset.refl _⟩
  obtain ⟨r, h₁, hversion, -, hanswer⟩ := version_used (s := s) hu
  rw [on_compile hversion] at hr
  match r with
  | .error e => cases hr
  | .ok none =>
    have hmissing : Yields (· = .failure (.ofError missingDiagnostic .toolchainUnavailable))
        toolMissing :=
      yields_last fun _ => yields_pure rfl
    refine .inr ⟨?_, hmissing h₁ result h' hr⟩
    rintro ⟨v, hv⟩
    rw [← hanswer.resolve_right not_unmeasured_ok] at hv
    cases hv
  | .ok (some v) =>
    have hwork : Yields (fun r => ∀ result, r = .ok result → BuildResult.IsNative result)
        (attempt (within s.tempRoot project source Manifest.contract (stages s))) :=
      yields_attempt (yields_within fun _ => closed_isNative.yields_stages)
    refine .inl ⟨⟨v, (hanswer.resolve_right not_unmeasured_ok).symm⟩, ?_⟩
    exact hwork.bind (fun r hr => closed_isNative.yields_compileEnd hr) h₁ result h' hr

end Toolchain

/-! ## Requests to compile -/

namespace CompileRequest

open Toolchain

/-- The request is passed on to the sandbox. -/
def IsPassedOn (s : Settings) (r : CompileRequest) (h : Host) : Prop :=
  Text.lower r.language = "rust" ∧ ¬ ToolAnswers s h ∧ r.useFallback = true

/-- How a request with this result was served: with one request to the sandbox, which carries the
source, if it was passed on, and else with none. -/
structure IsServed (s : Settings) (r : CompileRequest) (h : Host) (result : BuildResult)
    (h' : Host) : Prop where
  posts : ∃ events, h'.trace = h.trace ++ events ∧
    (Event.posts events ≠ [] ↔ r.IsPassedOn s h) ∧
    (r.IsPassedOn s h → Event.posts events = [Sandbox.request s r.source])
  unsupported : Text.lower r.language ≠ "rust" → h' = h
  placeholder_iff : ∀ b, result = .success b → (b.placeholder = true ↔ r.IsPassedOn s h)

variable {s : Settings} {r : CompileRequest} {h h' : Host} {result : BuildResult}

/-- A request that is not passed on, with a result that is no placeholder. -/
theorem isServed_natively (hnot : ¬ r.IsPassedOn s h)
    (hposts : ∃ events, h'.trace = h.trace ++ events ∧ Event.posts events = [])
    (hunsupported : Text.lower r.language ≠ "rust" → h' = h)
    (hresult : ∀ b, result = .success b → b.placeholder = false) : IsServed s r h result h' := by
  obtain ⟨events, htrace, hposts⟩ := hposts
  refine ⟨⟨events, htrace, iff_of_false (not_not_intro hposts) hnot, fun hpassed => ?_⟩,
    hunsupported, ?_⟩
  · exact absurd hpassed hnot
  intro b hb
  rw [hresult b hb]
  exact iff_of_false Bool.false_ne_true hnot

theorem posts_native (s : Settings) (source project : Text) :
    Posts [] (Toolchain.compile s source project) :=
  Settles.posts (traceProperty_settles.compile (fun _ _ _ => settles_command _ _) source project)

theorem wantsFallback_of_isNative {native : BuildResult} (hn : native.IsNative) :
    r.wantsFallback native = false := by
  cases native with
  | success b => rfl
  | failure f =>
    rw [wantsFallback, Bool.and_eq_false_iff]
    exact .inr (decide_eq_false hn)

/-- A request in another language is refused at once. -/
theorem result_of_unsupported (hlanguage : Text.lower r.language ≠ "rust") :
    r.result s = pure (.failure (unsupported r.language)) := by
  have hnot : ¬ languages.contains (Text.lower r.language) = true := by
    rw [List.contains_iff_mem]
    exact fun hmem => hlanguage (List.mem_singleton.1 hmem)
  rw [CompileRequest.result, if_neg hnot]

/-- A request in the right language is compiled natively first, and then perhaps remotely. -/
theorem result_of_supported (hlanguage : Text.lower r.language = "rust") :
    r.result s = (do
      let native ← Toolchain.compile s r.source r.project
      if r.wantsFallback native then do
        Run.log .warning "Native toolchain unavailable, using remote fallback compiler"
        Sandbox.compile s r.source
      else return native) := by
  have hcontains : languages.contains (Text.lower r.language) = true := by
    rw [List.contains_iff_mem]
    exact List.mem_singleton.2 hlanguage
  rw [CompileRequest.result, if_pos hcontains]

/-- A request that is passed on, once the native compilation has ended without a request. -/
theorem isServed_remotely {h₁ : Host} (hpassed : r.IsPassedOn s h)
    (hposts : ∃ events, h₁.trace = h.trace ++ events ∧ Event.posts events = [])
    (hr : (Run.log .warning "Native toolchain unavailable, using remote fallback compiler" >>=
      fun _ => Sandbox.compile s r.source).on h₁ = (.ok result, h')) :
    IsServed s r h result h' := by
  obtain ⟨events, htrace, hnone⟩ := hposts
  have hremote : Yields BuildResult.IsRemote
      (Run.log .warning "Native toolchain unavailable, using remote fallback compiler" >>=
        fun _ => Sandbox.compile s r.source) :=
    yields_last fun _ =>
      (Sandbox.yields_comesTo s r.source).mono fun _ => Sandbox.isRemote_of_comesTo
  have hresult := hremote h₁ result h' hr
  -- between the native compilation and the request only the warning is logged
  obtain ⟨e, h₂, haside, hlog, -, htrace₂⟩ := on_log_aside .warning
    "Native toolchain unavailable, using remote fallback compiler" h₁
  rw [on_bind_ok hlog] at hr
  obtain ⟨later, hlater, hone⟩ := Sandbox.posts_compile s r.source h₂
  rw [hr] at hlater
  have haside' : Event.posts [e] = [] := by
    cases e with
    | posted _ => cases haside
    | _ => rfl
  have hsent : Event.posts (events ++ [e] ++ later) = [Sandbox.request s r.source] := by
    rw [Event.posts_append, Event.posts_append, hnone, haside', hone]
    rfl
  refine ⟨⟨events ++ [e] ++ later, ?_, iff_of_true ?_ hpassed, fun _ => hsent⟩,
    fun hnot => absurd hpassed.1 hnot, ?_⟩
  · rw [hlater, htrace₂, htrace, List.append_assoc, List.append_assoc, List.append_assoc]
  · rw [hsent]
    exact List.cons_ne_nil _ _
  · rintro b rfl
    exact iff_of_true hresult hpassed

/-- However a request is served, it is served as it is passed on. -/
theorem isServed_of_result (hr : (r.result s).on h = (.ok result, h')) :
    IsServed s r h result h' := by
  by_cases hlanguage : Text.lower r.language = "rust"
  · have hfits : Text.lower r.language ≠ "rust" → h' = h := fun hnot => absurd hlanguage hnot
    have hposts := posts_native s r.source r.project h
    rw [result_of_supported hlanguage] at hr
    cases hnative : (Toolchain.compile s r.source r.project).on h with
    | mk native h₁ =>
      rw [hnative] at hposts
      cases native with
      | error e =>
        rw [on_bind_error hnative] at hr
        cases hr
      | ok native =>
        rw [on_bind_ok hnative] at hr
        -- the tool answered the probe, or it is missing and the caller decides
        rcases compile_result hnative with ⟨hanswers, hn⟩ | ⟨hmissing, rfl⟩
        · rw [wantsFallback_of_isNative hn, if_neg Bool.false_ne_true] at hr
          cases hr
          refine isServed_natively (fun hpassed => hpassed.2.1 hanswers) hposts hfits ?_
          rintro b rfl
          exact hn
        · cases hfallback : r.useFallback with
          | false =>
            have hnot : ¬ r.IsPassedOn s h := by
              rintro ⟨-, -, huse⟩
              rw [hfallback] at huse
              cases huse
            rw [wantsFallback, hfallback, Bool.false_and, if_neg Bool.false_ne_true] at hr
            cases hr
            refine isServed_natively hnot hposts hfits ?_
            rintro b ⟨⟩
          | true =>
            rw [wantsFallback, hfallback] at hr
            exact isServed_remotely ⟨hlanguage, hmissing, hfallback⟩ hposts hr
  · rw [result_of_unsupported hlanguage] at hr
    cases hr
    refine isServed_natively (fun hpassed => hlanguage hpassed.1)
      ⟨[], (List.append_nil _).symm, rfl⟩ (fun _ => rfl) ?_
    rintro b ⟨⟩

/-- A request that returns was sent to the sandbox if and only if the tool is missing and the caller
agrees, and then once, with the source in it; in another language nothing was done at all. Its
payload tells of the result, which is a placeholder if and only if it is the answer to that
request. -/
theorem answers_of_returns (s : Settings) (r : CompileRequest) (h h' : Host) (payload : Json)
    (hr : (r.answer s).on h = (.ok payload, h')) :
    ∃ result fields sent, (r.result s).on h = (.ok result, h') ∧ IsServed s r h result h' ∧
      payload = .object fields ∧ result.Told fields ∧
      (Sandbox.request s r.source).body = .object sent ∧
      Json.field? "code" sent = some (.text (Sandbox.wrap r.source)) := by
  cases hresult : (r.result s).on h with
  | mk answer h₁ =>
    rw [CompileRequest.answer] at hr
    cases answer with
    | error e =>
      rw [on_bind_error hresult] at hr
      cases hr
    | ok result =>
      rw [on_bind_ok hresult, report, on_answer] at hr
      obtain ⟨hreport, rfl⟩ := Prod.mk.inj hr
      cases hpayload : result.report (some s.pricing) with
      | error e =>
        rw [hpayload] at hreport
        cases hreport
      | ok json =>
        rw [hpayload] at hreport
        cases hreport
        obtain ⟨fields, rfl, htold⟩ := BuildResult.told_of_report hpayload
        exact ⟨result, fields, _, rfl, isServed_of_result hresult, rfl, htold, rfl, rfl⟩

/-- A host without any tool, whose sandbox runs the source. -/
def toollessHost : Host :=
  { replies :=
      [.answered 200 (some "OK") (.ok (.object [("stdout", .text "hello\n"), ("stderr", .null)]))] }

/-- A request that allows the fallback. -/
def leniently : CompileRequest where
  source := "fn main() \x7b\x7d"
  language := "Rust"
  useFallback := true

theorem answers_of_returns_toolless :
    (Event.posts ((leniently.answer {}).on toollessHost).2.trace).length = 1 ∧
      ∃ payload h', (leniently.answer {}).on toollessHost = (.ok payload, h') ∧
        ∃ result fields sent, (leniently.result {}).on toollessHost = (.ok result, h') ∧
          IsServed {} leniently toollessHost result h' ∧ payload = .object fields ∧
          result.Told fields ∧ (Sandbox.request {} leniently.source).body = .object sent ∧
          Json.field? "code" sent = some (.text (Sandbox.wrap leniently.source)) := by
  have hreturns : ((leniently.answer {}).on toollessHost).1.toOption.isSome = true := by
    decide +kernel
  refine ⟨by decide +kernel, ?_⟩
  cases hr : (leniently.answer {}).on toollessHost with
  | mk answer h' =>
    rw [hr] at hreturns
    cases answer with
    | error e => cases hreturns
    | ok payload =>
      exact ⟨payload, h', rfl, answers_of_returns {} leniently toollessHost h' payload hr⟩

end CompileRequest

end ContractBuild
