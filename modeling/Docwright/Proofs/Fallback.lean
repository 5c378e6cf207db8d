import Mathlib
import Docwright.Remote.Fallback

/-!
# Replace or fall back

A routine with a service gets the service's documentation whole, or else its own. This module says
exactly when that is so.

* `Service.Answers` — the service was asked and **answered** with a body that can be read on.
* `Accepts` — the body is **accepted**: it holds a reply, and the reply gives documentation.
* `Breaks` — the body **breaks** the reading of it: there is something in it that none of the
  failures covers. A content of another kind than a string, a whole number with too many digits and
  values nested too deep are the only such things.

Each reader gets one lemma for what it accepts and one for what breaks it, from the reply outwards
to the service; everything else is a failure, and every failure is made up for. So documentation
comes back exactly when no answer breaks its reading (`replacesOrFallsBack_iff`).
-/

namespace Docwright

namespace Remote

/-! ## Replies -/

/-- A reply that breaks its reading. -/
inductive BreaksReply : (reply : LooseText) → (crash : Crash) → Prop
  /-- a whole number has too many digits -/
  | longNumber {reply : LooseText} {digits : Nat}
      (h : Json.read (objectText reply) = .error (.tooLong digits)) :
      BreaksReply reply (.longNumber digits)
  /-- values are nested too deep -/
  | nested {reply : LooseText} {holder : Json.Holder}
      (h : Json.read (objectText reply) = .error (.tooDeep holder)) :
      BreaksReply reply (.deepNesting holder)

/-- A value that has been read is accepted or refused. -/
theorem accept_ne_crashed (r : Routine) (v : Json) (crash : Crash) :
    accept r v ≠ .error (.crashed crash) := by
  intro h
  unfold accept at h
  split at h
  · cases h
  · split at h
    · cases h
    · cases h

/-- **What breaks a reply.** -/
theorem parseReply_eq_crashed_iff {reply : LooseText} {r : Routine} {crash : Crash} :
    parseReply reply r = .error (.crashed crash) ↔ BreaksReply reply crash := by
  unfold parseReply readObject
  constructor
  · intro h
    rcases hread : Json.read (objectText reply) with error | v
    · rw [hread] at h
      cases error with
      | malformed cause line column offset => cases h
      | tooLong digits =>
        cases h
        exact .longNumber hread
      | tooDeep holder =>
        cases h
        exact .nested hread
    · rw [hread] at h
      exact absurd h (accept_ne_crashed r v crash)
  · intro h
    cases h with
    | longNumber hread =>
      rw [hread]
      rfl
    | nested hread =>
      rw [hread]
      rfl

/-- An empty reply is a failure. -/
theorem parseReply_nil (r : Routine) :
    ∃ failure, parseReply [] r = .error (.failed failure) := ⟨_, rfl⟩

/-! ## Contents -/

/-- A void content is a failure. -/
theorem parseContent_of_void (r : Routine) {c : Json} (h : c.isVoid = true) :
    ∃ failure, parseContent r c = .error (.failed failure) := by
  unfold parseContent
  rw [if_pos h]
  exact parseReply_nil r

/-- A string is a reply, also when it is empty. -/
theorem parseContent_str (r : Routine) (reply : LooseText) :
    parseContent r (.str reply) = parseReply reply r := by
  by_cases h : (Json.str reply).isVoid = true
  · obtain rfl : reply = [] := by simpa [Json.isVoid] using h
    rfl
  · rw [parseContent, if_neg h]

/-- Any other content breaks. -/
theorem parseContent_of_kind (r : Routine) {c : Json} (hvoid : c.isVoid = false)
    (hkind : c.kind ≠ .string) : parseContent r c = .error (.crashed (.content c.kind)) := by
  unfold parseContent
  rw [hvoid, if_neg Bool.false_ne_true]
  cases c with
  | str reply => exact absurd rfl hkind
  | null | bool b | num n | arr items | obj fields => rfl

/-- The three cases of a content. -/
theorem content_cases (c : Json) :
    c.isVoid = true ∨ (∃ reply, c = .str reply) ∨ c.isVoid = false ∧ c.kind ≠ .string := by
  rcases hvoid : c.isVoid
  · right
    cases c with
    | str reply => exact .inl ⟨reply, rfl⟩
    | num n => cases n <;> exact .inr ⟨rfl, by simp [Json.kind]⟩
    | null | bool b | arr items | obj fields => exact .inr ⟨rfl, by simp [Json.kind]⟩
  · exact .inl rfl

/-- **What is accepted of a content**: a string with an acceptable reply. -/
theorem parseContent_eq_ok_iff {r : Routine} {c : Json} {d : Documentation} :
    parseContent r c = .ok d ↔ ∃ reply, c = .str reply ∧ parseReply reply r = .ok d := by
  constructor
  · intro h
    rcases content_cases c with hvoid | ⟨reply, rfl⟩ | ⟨hvoid, hkind⟩
    · obtain ⟨failure, hfailed⟩ := parseContent_of_void r hvoid
      rw [hfailed] at h
      cases h
    · exact ⟨reply, rfl, parseContent_str r reply ▸ h⟩
    · rw [parseContent_of_kind r hvoid hkind] at h
      cases h
  · rintro ⟨reply, rfl, h⟩
    rw [parseContent_str, h]

/-- **What breaks a content**: a kind that is no string, or a reply that breaks. -/
theorem parseContent_eq_crashed_iff {r : Routine} {c : Json} {crash : Crash} :
    parseContent r c = .error (.crashed crash) ↔
      (c.isVoid = false ∧ c.kind ≠ .string ∧ crash = .content c.kind) ∨
        ∃ reply, c = .str reply ∧ BreaksReply reply crash := by
  constructor
  · intro h
    rcases content_cases c with hvoid | ⟨reply, rfl⟩ | ⟨hvoid, hkind⟩
    · obtain ⟨failure, hfailed⟩ := parseContent_of_void r hvoid
      rw [hfailed] at h
      cases h
    · rw [parseContent_str, parseReply_eq_crashed_iff] at h
      exact .inr ⟨reply, rfl, h⟩
    · rw [parseContent_of_kind r hvoid hkind] at h
      cases h
      exact .inl ⟨hvoid, hkind, rfl⟩
  · rintro (⟨hvoid, hkind, rfl⟩ | ⟨reply, rfl, h⟩)
    · exact parseContent_of_kind r hvoid hkind
    · rw [parseContent_str, parseReply_eq_crashed_iff]
      exact h

/-! ## Bodies -/

/-- The body of a response holds a content: it can be read, and the content is where it has to
be. -/
def Holds (body : String) (c : Json) : Prop :=
  ∃ v, Json.read body = .ok v ∧ content v = .ok c

/-- The body of a response gives documentation of a routine. -/
def Accepts (r : Routine) (body : String) (d : Documentation) : Prop :=
  ∃ reply, Holds body (.str reply) ∧ parseReply reply r = .ok d

/-- The body of a response breaks its reading. -/
inductive Breaks : (body : String) → (crash : Crash) → Prop
  /-- values are nested too deep -/
  | nested {body : String} {holder : Json.Holder}
      (h : Json.read body = .error (.tooDeep holder)) : Breaks body (.deepNesting holder)
  /-- the content is there and is no string -/
  | kind {body : String} {c : Json} (h : Holds body c) (hvoid : c.isVoid = false)
      (hkind : c.kind ≠ .string) : Breaks body (.content c.kind)
  /-- the reply breaks -/
  | reply {body : String} {reply : LooseText} {crash : Crash} (h : Holds body (.str reply))
      (hreply : BreaksReply reply crash) : Breaks body crash

/-- A content that is held decides about the body. -/
theorem parseBody_of_holds (r : Routine) {body : String} {c : Json} (h : Holds body c) :
    parseBody r body = parseContent r c := by
  obtain ⟨v, hread, hcontent⟩ := h
  rw [parseBody, hread]
  dsimp only
  rw [hcontent]

/-- The three cases of a body. -/
theorem body_cases (r : Routine) (body : String) :
    (∃ c, Holds body c) ∨ (∃ holder, Json.read body = .error (.tooDeep holder)) ∨
      ∃ failure, parseBody r body = .error (.failed failure) := by
  rw [parseBody]
  rcases hread : Json.read body with error | v
  · right
    cases error with
    | tooDeep holder => exact .inl ⟨holder, rfl⟩
    | malformed cause line column offset => exact .inr ⟨_, rfl⟩
    | tooLong digits => exact .inr ⟨_, rfl⟩
  · rcases hcontent : content v with wording | c
    · right
      right
      exact ⟨.response wording, by simp only [hcontent]⟩
    · exact .inl ⟨c, v, hread, hcontent⟩

/-- **What is accepted of a body.** -/
theorem parseBody_eq_ok_iff {r : Routine} {body : String} {d : Documentation} :
    parseBody r body = .ok d ↔ Accepts r body d := by
  constructor
  · intro h
    rcases body_cases r body with ⟨c, hc⟩ | ⟨holder, hread⟩ | ⟨failure, hfailed⟩
    · rw [parseBody_of_holds r hc, parseContent_eq_ok_iff] at h
      obtain ⟨reply, rfl, hreply⟩ := h
      exact ⟨reply, hc, hreply⟩
    · rw [parseBody, hread] at h
      cases h
    · rw [hfailed] at h
      cases h
  · rintro ⟨reply, hc, hreply⟩
    rw [parseBody_of_holds r hc, parseContent_str, hreply]

/-- **What breaks a body.** -/
theorem parseBody_eq_crashed_iff {r : Routine} {body : String} {crash : Crash} :
    parseBody r body = .error (.crashed crash) ↔ Breaks body crash := by
  constructor
  · intro h
    rcases body_cases r body with ⟨c, hc⟩ | ⟨holder, hread⟩ | ⟨failure, hfailed⟩
    · rw [parseBody_of_holds r hc, parseContent_eq_crashed_iff] at h
      rcases h with ⟨hvoid, hkind, rfl⟩ | ⟨reply, rfl, hreply⟩
      · exact .kind hc hvoid hkind
      · exact .reply hc hreply
    · rw [parseBody, hread] at h
      cases h
      exact .nested hread
    · rw [hfailed] at h
      cases h
  · intro h
    cases h with
    | nested hread =>
      rw [parseBody, hread]
    | kind hc hvoid hkind =>
      rw [parseBody_of_holds r hc, parseContent_of_kind r hvoid hkind]
    | reply hc hreply =>
      rw [parseBody_of_holds r hc, parseContent_str, parseReply_eq_crashed_iff]
      exact hreply

/-! ## The service -/

/-- The service is asked about a routine and answers: it has a key, the request gets through, and
the status of the response is not one of an error. -/
def Service.Answers (service : Service) (r : Routine) (body : String) : Prop :=
  ∃ key status, service.settings.apiKey = some key ∧ key ≠ "" ∧
    service.post (service.request key r) = .answered status body ∧ isErrorStatus status = false

/-- An answer decides about the consultation. -/
theorem outcome_of_answers {service : Service} {r : Routine} {body : String}
    (h : service.Answers r body) : (service.consult r).outcome = parseBody r body := by
  obtain ⟨key, status, hkey, hne, hpost, hstatus⟩ := h
  have hfilter : service.settings.apiKey.filter (!·.isEmpty) = some key := by
    simp [hkey, hne]
  rw [Service.consult, hfilter]
  dsimp only
  rw [hpost, parseExchange, hstatus, if_neg Bool.false_ne_true]

/-- Without an answer the consultation is a failure. -/
theorem answers_or_failed (service : Service) (r : Routine) :
    (∃ body, service.Answers r body) ∨
      ∃ failure, (service.consult r).outcome = .error (.failed failure) := by
  rcases hfilter : service.settings.apiKey.filter (!·.isEmpty) with _ | key
  · right
    rw [Service.consult, hfilter]
    exact ⟨.noKey, rfl⟩
  · obtain ⟨hkey, hne⟩ := Option.filter_eq_some_iff.mp hfilter
    rcases hpost : service.post (service.request key r) with text | ⟨status, body⟩
    · right
      rw [Service.consult, hfilter]
      dsimp only
      rw [hpost]
      exact ⟨.transport text, rfl⟩
    · rcases hstatus : isErrorStatus status
      · left
        exact ⟨body, key, status, hkey, by simpa using hne, hpost, hstatus⟩
      · right
        rw [Service.consult, hfilter]
        dsimp only
        rw [hpost, parseExchange, hstatus, if_pos rfl]
        exact ⟨.status status body, rfl⟩

/-- **What is accepted of a consultation**: an answer whose body is accepted. -/
theorem outcome_eq_ok_iff {service : Service} {r : Routine} {d : Documentation} :
    (service.consult r).outcome = .ok d ↔ ∃ body, service.Answers r body ∧ Accepts r body d := by
  constructor
  · intro h
    rcases answers_or_failed service r with ⟨body, hbody⟩ | ⟨failure, hfailed⟩
    · rw [outcome_of_answers hbody, parseBody_eq_ok_iff] at h
      exact ⟨body, hbody, h⟩
    · rw [hfailed] at h
      cases h
  · rintro ⟨body, hbody, hd⟩
    rw [outcome_of_answers hbody, parseBody_eq_ok_iff]
    exact hd

/-- **What breaks a consultation**: an answer whose body breaks. -/
theorem outcome_eq_crashed_iff {service : Service} {r : Routine} {crash : Crash} :
    (service.consult r).outcome = .error (.crashed crash) ↔
      ∃ body, service.Answers r body ∧ Breaks body crash := by
  constructor
  · intro h
    rcases answers_or_failed service r with ⟨body, hbody⟩ | ⟨failure, hfailed⟩
    · rw [outcome_of_answers hbody, parseBody_eq_crashed_iff] at h
      exact ⟨body, hbody, h⟩
    · rw [hfailed] at h
      cases h
  · rintro ⟨body, hbody, hbreaks⟩
    rw [outcome_of_answers hbody, parseBody_eq_crashed_iff]
    exact hbreaks

/-! ## The theorem -/

/-- Documenting a routine crashes exactly when the consultation breaks. -/
theorem document_eq_error_iff {service : Service} {r : Routine} {crash : Crash} :
    document (some service) r = .error crash ↔
      (service.consult r).outcome = .error (.crashed crash) := by
  rw [document]
  rcases (service.consult r).outcome with (failure | crash') | d
  · simp
  · simp
  · simp

/-- Documenting a routine gives documentation: what the answer of the service gives when it is
accepted, and what the routine itself gives in every other case. -/
def ReplacesOrFallsBack (service : Service) (r : Routine) : Prop :=
  ∃ outcome, document (some service) r = .ok outcome ∧
    (∀ body d, service.Answers r body → Accepts r body d → outcome.documentation = d) ∧
    ((∀ body d, service.Answers r body → ¬ Accepts r body d) →
      outcome.documentation = r.synthesize)

/-- **Replace or fall back.** A routine gets the service's documentation or its own, and nothing
else comes of it, exactly when no answer of the service breaks its reading. -/
theorem replacesOrFallsBack_iff (service : Service) (r : Routine) :
    ReplacesOrFallsBack service r ↔
      ¬ ∃ body crash, service.Answers r body ∧ Breaks body crash := by
  constructor
  · rintro ⟨outcome, hok, -⟩ ⟨body, crash, hbreaks⟩
    rw [document_eq_error_iff.mpr (outcome_eq_crashed_iff.mpr ⟨body, hbreaks⟩)] at hok
    cases hok
  · intro h
    rcases houtcome : (service.consult r).outcome with (failure | crash) | d
    · -- a failure: no answer is accepted, and the routine documents itself
      refine ⟨_, by rw [document, houtcome], fun body d hbody hd => ?_, fun _ => rfl⟩
      rw [outcome_eq_ok_iff.mpr ⟨body, hbody, hd⟩] at houtcome
      cases houtcome
    · obtain ⟨body, hbreaks⟩ := outcome_eq_crashed_iff.mp houtcome
      exact absurd ⟨body, crash, hbreaks⟩ h
    · -- documentation: some answer is accepted, and no other documentation can be
      refine ⟨_, by rw [document, houtcome], fun body d' hbody hd' => ?_, fun hnone => ?_⟩
      · rw [outcome_eq_ok_iff.mpr ⟨body, hbody, hd'⟩] at houtcome
        cases houtcome
        rfl
      · obtain ⟨body, hbody, hd⟩ := outcome_eq_ok_iff.mp houtcome
        exact absurd hd (hnone body d hbody)

/-- A number where the content should be is not made up for. -/
theorem not_replacesOrFallsBack_of_number :
    ¬ ReplacesOrFallsBack
      { settings := { apiKey := some "k" }
        post := fun _ => .answered 200
          "\x7b\"choices\": [\x7b\"message\": \x7b\"content\": 5\x7d\x7d]\x7d" }
      { name := "f" } := by
  rintro ⟨outcome, h, -⟩
  have hread : Json.read (LooseText.ofString
      "\x7b\"choices\": [\x7b\"message\": \x7b\"content\": 5\x7d\x7d]\x7d") =
        .ok (.obj [("choices",
          .arr [.obj [("message", .obj [("content", .num (.whole 5))])]])]) := by
    cbv
  have hbreaks := Breaks.kind (c := .num (.whole 5)) ⟨_, hread, rfl⟩ rfl (by decide)
  rw [document_eq_error_iff.mpr (outcome_eq_crashed_iff.mpr
    ⟨_, ⟨"k", 200, rfl, by decide, rfl, rfl⟩, hbreaks⟩)] at h
  cases h

end Remote

end Docwright
