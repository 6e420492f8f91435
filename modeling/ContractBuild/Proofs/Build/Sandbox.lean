import ContractBuild.Build.Sandbox
import ContractBuild.Proofs.Host.Answers

/-!
# Which replies the sandbox is understood by

The body of an answer comes from elsewhere and may have any shape. Only its outermost shape is
looked at before its fields are used, so a field that is there and is no text stops the work.

`Sandbox.Unusable` are the replies that are reported as a fault of the environment,
`Sandbox.Understood` those that lead to a result at all. Main statement:
`Sandbox.returns_iff_understood`.
-/

set_option autoImplicit false

namespace ContractBuild

/-- What comes of the next request. -/
def Host.nextReply (h : Host) : Reply :=
  h.replies.headD (.failed "no response")

namespace Sandbox

open Run

/-! ## The next reply -/

theorem on_nextReply (h : Host) :
    nextReply.on h = (.ok h.nextReply, { h with replies := h.replies.tail }) := by
  obtain ⟨files, ticker, token, spawns, replies, times, trace⟩ := h
  cases replies <;> rfl

/-- A request is posted and answered with the next reply. -/
theorem on_post (r : Request) (h : Host) :
    ∃ h', (post r).on h = (.ok h.nextReply, h') := by
  rw [post, on_bind_ok (on_note h (.posted r)), on_nextReply]
  exact ⟨_, rfl⟩

/-- A reply that is not the answer of a compilation: the exchange failed, or the answer has another
status than that of success, or its body is no JSON, or no object. -/
inductive Unusable : Reply → Prop
  | failed (reason : Text) : Unusable (.failed reason)
  | status {status : Int} {reason : Option Text} {body : Except Text Json} (hs : status ≠ 200) :
      Unusable (.answered status reason body)
  | unreadable {status : Int} {reason : Option Text} (fault : Text) :
      Unusable (.answered status reason (.error fault))
  | shape {status : Int} {reason : Option Text} {v : Json} (hv : ∀ fields, v ≠ .object fields) :
      Unusable (.answered status reason (.ok v))

theorem not_unusable_body {reason : Option Text} {fields : List (Text × Json)} :
    ¬ Unusable (.answered 200 reason (.ok (.object fields))) := by
  rintro (_ | hs | _ | hv)
  · exact hs rfl
  · exact hv fields rfl

/-- What a reply amounts to, and for which replies. -/
inductive Amounts : Reply → Outcome → Prop
  | overrun : Amounts .overrun .overrun
  | failed {r : Reply} (reason : Text) (hr : Unusable r) : Amounts r (.failed reason)
  | refused (reason : Text) : Amounts (.refused reason) (.refused reason)
  | body {reason : Option Text} (fields : List (Text × Json)) :
      Amounts (.answered 200 reason (.ok (.object fields))) (.body fields)

theorem amounts_ofReply (r : Reply) : Amounts r (Outcome.ofReply r) := by
  cases r with
  | overrun => exact .overrun
  | failed reason => exact .failed reason (.failed reason)
  | refused reason => exact .refused reason
  | answered status reason content =>
    by_cases hs : status = 200
    · subst hs
      cases content with
      | error fault => exact .failed fault (.unreadable fault)
      | ok v =>
        cases v with
        | object fields => exact .body fields
        | _ => exact .failed _ (.shape (by rintro fields ⟨⟩))
    · rw [Outcome.ofReply.eq_def]
      simp only [if_pos hs]
      exact .failed _ (.status hs)

/-! ## The fields of an answer -/

/-- A field of an answer that can be used as a text: it is a text or counts as absent. -/
def Textual (fields : List (Text × Json)) (name : Text) : Prop :=
  ∀ v, Json.field? name fields = some v → v.isPresent = true → ∃ t, v = .text t

theorem textual_iff {fields : List (Text × Json)} {name : Text} :
    Textual fields name ↔ ∃ t, output fields name = .text t := by
  unfold Textual output
  cases Json.field? name fields with
  | none => exact iff_of_true (by rintro v ⟨⟩) ⟨[], rfl⟩
  | some v =>
    cases hv : v.isPresent with
    | false => simp [hv]
    | true => simp [hv]

theorem output_eq_text_iff {fields : List (Text × Json)} {name t : Text} (ht : t ≠ []) :
    output fields name = .text t ↔ Json.field? name fields = some (.text t) := by
  have hempty : Json.text [] ≠ .text t := fun h => ht (Json.text.inj h).symm
  unfold output
  cases Json.field? name fields with
  | none => exact iff_of_false hempty (by rintro ⟨⟩)
  | some v =>
    cases hv : v.isPresent with
    | true => simp [hv]
    | false =>
      refine iff_of_false (by simpa [hv] using hempty) ?_
      rintro ⟨rfl⟩
      exact ht (by simpa [Json.isPresent] using hv)

/-- The error stream of an answer is a text that mentions an error. -/
def MentionsError (fields : List (Text × Json)) : Prop :=
  ∃ t, Json.field? "stderr" fields = some (.text t) ∧ Text.contains "error" t = true

/-- What the error stream says decides what else has to be a text: once it mentions an error, the
other stream is not looked at. -/
def Legible (stdout stderr : Json) : Prop :=
  ∃ t, stderr = .text t ∧ (Text.contains "error" t = true ∨ ∃ u, stdout = .text u)

theorem legible_output_iff {fields : List (Text × Json)} :
    Legible (output fields "stdout") (output fields "stderr") ↔
      Textual fields "stderr" ∧ (MentionsError fields ∨ Textual fields "stdout") := by
  have hmention : ∀ t, Text.contains "error" t = true → t ≠ [] := by
    rintro t ht rfl
    exact absurd ht (by decide)
  rw [textual_iff, textual_iff]
  constructor
  · rintro ⟨t, hstderr, hsays | hstdout⟩
    · exact ⟨⟨t, hstderr⟩, .inl ⟨t, (output_eq_text_iff (hmention t hsays)).1 hstderr, hsays⟩⟩
    · exact ⟨⟨t, hstderr⟩, .inr hstdout⟩
  · rintro ⟨⟨t, hstderr⟩, ⟨u, hu, hsays⟩ | hstdout⟩
    · exact ⟨u, (output_eq_text_iff (hmention u hsays)).2 hu, .inl hsays⟩
    · exact ⟨t, hstderr, .inr hstdout⟩

theorem placeholder_text (source u : Text) : ∃ p, placeholder source (.text u) = .ok p := by
  unfold placeholder
  cases u with
  | cons c t => exact ⟨_, rfl⟩
  | nil =>
    simp only
    split <;> exact ⟨_, rfl⟩

theorem placeholder_eq_error {source : Text} {stdout : Json} (hu : ¬ ∃ u, stdout = .text u) :
    placeholder source stdout = .error .notText := by
  cases stdout with
  | text u => exact absurd ⟨u, rfl⟩ hu
  | _ => rfl

/-- What a textual error stream comes to: its errors if it mentions one, else the placeholder. -/
theorem on_judge_text (source : Text) (stdout : Json) (stderr : Text) (h : Host) :
    ((judge source stdout (.text stderr)).on h).1 =
      if Text.contains "error" stderr then
        .ok (.failure (compileFailure (Diagnostic.parseFlat .error stderr) stderr))
      else ((placeholder source stdout).map fun text =>
        .success (placeholderSuccess text (Diagnostic.parseFlat .warning stderr))).mapError
          .output := by
  rw [judge]
  split
  · rfl
  · cases placeholder source stdout <;> rfl

theorem judge_ok {stdout stderr : Json} (hl : Legible stdout stderr) (source : Text) (h : Host) :
    ∃ result, ((judge source stdout stderr).on h).1 = .ok result := by
  obtain ⟨t, rfl, ht⟩ := hl
  rw [on_judge_text]
  split
  · exact ⟨_, rfl⟩
  · rename_i hmention
    obtain ⟨u, rfl⟩ := ht.resolve_left hmention
    obtain ⟨p, hp⟩ := placeholder_text source u
    rw [hp]
    exact ⟨_, rfl⟩

theorem judge_error {stdout stderr : Json} (hl : ¬ Legible stdout stderr) (source : Text)
    (h : Host) : ∃ fault, ((judge source stdout stderr).on h).1 = .error (.output fault) := by
  cases stderr with
  | text t =>
    rw [on_judge_text]
    split
    · rename_i hmention
      exact absurd ⟨t, rfl, .inl hmention⟩ hl
    · have hu : ¬ ∃ u, stdout = .text u := fun hu => hl ⟨t, rfl, .inr hu⟩
      rw [placeholder_eq_error hu]
      exact ⟨_, rfl⟩
  | _ => exact ⟨_, rfl⟩

/-! ## Replies that lead to a result -/

/-- A reply that leads to a result: no reply in time, a reply that is reported as a fault, or an
object whose error stream is textual, and whose other stream is too unless the error stream
mentions an error. -/
inductive Understood : Reply → Prop
  | overrun : Understood .overrun
  | unusable {r : Reply} (hr : Unusable r) : Understood r
  | body {reason : Option Text} {fields : List (Text × Json)}
      (herr : Textual fields "stderr") (hout : MentionsError fields ∨ Textual fields "stdout") :
      Understood (.answered 200 reason (.ok (.object fields)))

theorem not_understood_refused (reason : Text) : ¬ Understood (.refused reason) := by
  rintro (_ | ⟨⟨⟩⟩)

theorem understood_body_iff {reason : Option Text} {fields : List (Text × Json)} :
    Understood (.answered 200 reason (.ok (.object fields))) ↔
      Legible (output fields "stdout") (output fields "stderr") := by
  rw [legible_output_iff]
  refine ⟨?_, fun hl => .body hl.1 hl.2⟩
  rintro (_ | hr | ⟨herr, hout⟩)
  · exact absurd hr not_unusable_body
  · exact ⟨herr, hout⟩

/-! ## How a remote compilation ends -/

/-- What a reply leads to. Only the fields of an object are judged. -/
inductive Concluded (source : Text) : Reply → Except Failure BuildResult → Prop
  | overrun {d : Diagnostic} (hd : d.isError = true) :
      Concluded source .overrun (.ok (.failure (.ofError d .timeout)))
  | unusable {r : Reply} {d : Diagnostic} (hr : Unusable r) (hd : d.isError = true) :
      Concluded source r (.ok (.failure (.ofError d .environment)))
  | refused (reason : Text) : Concluded source (.refused reason) (.error (.os { text := reason }))
  | judged {reason : Option Text} (fields : List (Text × Json)) (h : Host) :
      Concluded source (.answered 200 reason (.ok (.object fields)))
        ((judge source (output fields "stdout") (output fields "stderr")).on h).1

theorem concluded_compile (s : Settings) (source : Text) (h : Host) :
    Concluded source h.nextReply ((compile s source).on h).1 := by
  obtain ⟨h', hpost⟩ := on_post (request s source) h
  have hamounts := amounts_ofReply h.nextReply
  rw [compile, on_bind_ok hpost]
  generalize h.nextReply = r, Outcome.ofReply h.nextReply = outcome at hamounts ⊢
  cases hamounts with
  | overrun => exact .overrun rfl
  | failed reason hr => exact .unusable hr rfl
  | refused reason => exact .refused reason
  | body fields => exact .judged fields _

/-- A result as the verdict of a syntax check. -/
def verdictOf : BuildResult → SyntaxCheck
  | .success _ => ⟨true, []⟩
  | .failure f => ⟨false, f.errors⟩

theorem on_checkSyntax (s : Settings) (source : Text) (h : Host) :
    ((checkSyntax s source).on h).1 = ((compile s source).on h).1.map verdictOf := by
  rw [checkSyntax]
  cases hcompile : (compile s source).on h with
  | mk answer h' =>
    cases answer with
    | error e =>
      rw [on_bind_error hcompile]
      rfl
    | ok result =>
      rw [on_bind_ok hcompile]
      cases result <;> rfl

/-- A syntax check returns where a compilation does. -/
theorem checkSyntax_returns_iff (s : Settings) (source : Text) (h : Host) :
    (∃ check, ((checkSyntax s source).on h).1 = .ok check) ↔
      ∃ result, ((compile s source).on h).1 = .ok result := by
  rw [on_checkSyntax]
  cases ((compile s source).on h).1 with
  | error e => simp [Except.map]
  | ok result => simp [Except.map]

theorem returns_iff_of_concluded {source : Text} {r : Reply} {answer : Except Failure BuildResult}
    (hc : Concluded source r answer) : (∃ result, answer = .ok result) ↔ Understood r := by
  cases hc with
  | overrun => exact iff_of_true ⟨_, rfl⟩ .overrun
  | unusable hr => exact iff_of_true ⟨_, rfl⟩ (.unusable hr)
  | refused reason => exact iff_of_false (by rintro ⟨result, ⟨⟩⟩) (not_understood_refused reason)
  | judged fields h =>
    rw [understood_body_iff]
    by_cases hl : Legible (output fields "stdout") (output fields "stderr")
    · exact iff_of_true (judge_ok hl source h) hl
    · obtain ⟨fault, hfault⟩ := judge_error hl source h
      rw [hfault]
      exact iff_of_false (by rintro ⟨result, ⟨⟩⟩) hl

theorem environment_of_concluded {source : Text} {r : Reply} {answer : Except Failure BuildResult}
    (hc : Concluded source r answer) (hr : Unusable r) :
    ∃ d, answer = .ok (.failure (.ofError d .environment)) := by
  cases hc with
  | overrun => cases hr
  | unusable => exact ⟨_, rfl⟩
  | refused reason => cases hr
  | judged fields h => exact absurd hr not_unusable_body

theorem fault_of_concluded {source : Text} {r : Reply} {e : Failure}
    (hc : Concluded source r (.error e)) :
    (∃ reason, r = .refused reason ∧ e = .os { text := reason }) ∨ ∃ fault, e = .output fault := by
  generalize hanswer : (Except.error e : Except Failure BuildResult) = answer at hc
  cases hc with
  | overrun => cases hanswer
  | unusable => cases hanswer
  | refused reason =>
    cases hanswer
    exact .inl ⟨reason, rfl, rfl⟩
  | judged fields h =>
    by_cases hl : Legible (output fields "stdout") (output fields "stderr")
    · obtain ⟨result, hresult⟩ := judge_ok hl source h
      rw [hresult] at hanswer
      cases hanswer
    · obtain ⟨fault, hfault⟩ := judge_error hl source h
      rw [hfault] at hanswer
      cases hanswer
      exact .inr ⟨fault, rfl⟩

/-- What a remote compilation can come to: a fault that has stopped it, the errors on the error
stream, or a placeholder with the warnings there. -/
inductive ComesTo : BuildResult → Prop
  | stopped {d : Diagnostic} {kind : FailureKind} (hd : d.isError = true)
      (hkind : kind = .timeout ∨ kind = .environment) : ComesTo (.failure (.ofError d kind))
  | failed (stderr : Text) :
      ComesTo (.failure (compileFailure (Diagnostic.parseFlat .error stderr) stderr))
  | succeeded (text : { t : Text // t ≠ [] }) (stderr : Text) :
      ComesTo (.success (placeholderSuccess text (Diagnostic.parseFlat .warning stderr)))

theorem comesTo_of_judge {source : Text} {stdout stderr : Json} {h : Host} {result : BuildResult}
    (hr : ((judge source stdout stderr).on h).1 = .ok result) : ComesTo result := by
  cases stderr with
  | text t =>
    rw [on_judge_text] at hr
    split at hr
    · cases hr
      exact .failed t
    · cases hplaceholder : placeholder source stdout with
      | ok text =>
        rw [hplaceholder] at hr
        cases hr
        exact .succeeded text t
      | error fault =>
        rw [hplaceholder] at hr
        cases hr
  | _ => cases hr

theorem comesTo_of_concluded {source : Text} {r : Reply} {result : BuildResult}
    (hc : Concluded source r (.ok result)) : ComesTo result := by
  generalize hanswer : (Except.ok result : Except Failure BuildResult) = answer at hc
  cases hc with
  | overrun hd =>
    cases hanswer
    exact .stopped hd (.inl rfl)
  | unusable hunusable hd =>
    cases hanswer
    exact .stopped hd (.inr rfl)
  | refused => cases hanswer
  | judged fields h => exact comesTo_of_judge hanswer.symm

theorem yields_comesTo (s : Settings) (source : Text) : Yields ComesTo (compile s source) := by
  intro h result h' hr
  have hc := concluded_compile s source h
  rw [hr] at hc
  exact comesTo_of_concluded hc

/-- A remote compilation returns a result exactly for the replies that are understood, and so does a
remote syntax check. A reply that is unusable as a whole is a fault of the environment. Everything
else ends the work: what the system refuses does, and so does an object whose error stream is no
text, or whose other stream is none while the error stream mentions no error. -/
theorem returns_iff_understood (s : Settings) (source : Text) (h : Host) :
    ((∃ result, ((compile s source).on h).1 = .ok result) ↔ Understood h.nextReply) ∧
      ((∃ check, ((checkSyntax s source).on h).1 = .ok check) ↔ Understood h.nextReply) ∧
      (Unusable h.nextReply → ∃ d,
        ((compile s source).on h).1 = .ok (.failure (.ofError d .environment)) ∧
          ((checkSyntax s source).on h).1 = .ok ⟨false, [d]⟩) ∧
      ∀ e, ((compile s source).on h).1 = .error e →
        (∃ reason, h.nextReply = .refused reason ∧ e = .os { text := reason }) ∨
          ∃ fault, e = .output fault := by
  have hc := concluded_compile s source h
  have hiff := returns_iff_of_concluded hc
  refine ⟨hiff, (checkSyntax_returns_iff s source h).trans hiff, fun hr => ?_, fun e he => ?_⟩
  · obtain ⟨d, hd⟩ := environment_of_concluded hc hr
    refine ⟨d, hd, ?_⟩
    rw [on_checkSyntax, hd]
    rfl
  · rw [he] at hc
    exact fault_of_concluded hc

/-- A service that answers with a number in place of the error stream. -/
def numericHost : Host where
  replies := [.answered 200 none (.ok (.object [("stdout", .text []), ("stderr", .int 5)]))]

/-- A number in place of the error stream is not understood, and no result is returned. -/
theorem returns_iff_understood_numeric :
    ¬ Understood numericHost.nextReply ∧
      ¬ (∃ result, ((compile {} "fn main() {}").on numericHost).1 = .ok result) ∧
      ∃ fault, ((compile {} "fn main() {}").on numericHost).1 = .error (.output fault) := by
  have hbroken : ((compile {} "fn main() {}").on numericHost).1 =
      .error (.output .notSearchable) := rfl
  obtain ⟨hcompile, -⟩ := returns_iff_understood {} "fn main() {}" numericHost
  have hnone : ¬ ∃ result, ((compile {} "fn main() {}").on numericHost).1 = .ok result := by
    rw [hbroken]
    rintro ⟨result, ⟨⟩⟩
  exact ⟨fun hu => hnone (hcompile.2 hu), hnone, _, hbroken⟩

end Sandbox

end ContractBuild
