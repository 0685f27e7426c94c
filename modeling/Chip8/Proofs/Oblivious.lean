import Chip8.Proofs.Lockstep

/-!
# Nothing depends on the journal

The journal stands beside the machine and is only ever written.  So two sessions with the same machine
answer alike for ever, whatever they have been through, and write the same events down.

* `Session.behind` — the session with earlier events in front of its own.
* `Oblivious` — the operation does the same with and without them.
* `Likeness.preceded` — a session and the same one with earlier events, as a likeness.
* **`oblivious_perform`** — everything that a host can do is oblivious.
* **`replies_behind`**, `performAll_behind` — the same for runs.
-/

namespace Chip8

/-! ## Earlier events -/

/-- The session with earlier events in front of its own. -/
def Session.behind (earlier : Journal) (session : Session) : Session :=
  { session with journal := earlier ++ session.journal }

/-- The same in the outcome of an operation. -/
def outcomeBehind {α : Type} (earlier : Journal) :
    EStateM.Result Error Session α → EStateM.Result Error Session α
  | .ok value left => .ok value (left.behind earlier)
  | .error error left => .error error (left.behind earlier)

/-- The operation does the same whatever was written down before. -/
def Oblivious {α : Type} (operation : Operation α) : Prop :=
  ∀ earlier session,
    operation.run (session.behind earlier) = outcomeBehind earlier (operation.run session)

/-! ## Sessions that differ in earlier events -/

/-- Sessions of which the second has earlier events in front of its own. -/
def Likeness.preceded (earlier : Journal) : Likeness where
  state := Eq
  recording recording twin := twin = { recording with journal := earlier ++ recording.journal }
  entry := Eq

namespace Likeness

variable {earlier : Journal} {session twin : Session}

lemma preceded_iff : (preceded earlier).Holds session twin ↔ twin = session.behind earlier := by
  constructor
  · rintro ⟨state, recording, around⟩
    obtain ⟨⟨⟩, _⟩ := session
    obtain ⟨⟨⟩, _⟩ := twin
    cases state
    cases recording
    cases around
    rfl
  · rintro rfl
    exact ⟨rfl, rfl, rfl⟩

lemma preceded_seen {machine other : Machine} (seen : (preceded earlier).Seen machine other) :
    other = machine := by
  obtain ⟨session, twin, holds, rfl, rfl⟩ := seen
  rw [preceded_iff.1 holds]
  rfl

lemma preceded_answers {answer other : Reply} (answers : (preceded earlier).Answers answer other) :
    other = answer := by
  cases answers with
  | @entry entry other entries =>
      have same : entry = other := entries
      rw [same]
  | trace seen => rw [preceded_seen seen]
  | _ => rfl

lemma preceded_lawful (earlier : Journal) : (preceded earlier).Lawful := by
  refine .of_same_state ?_ ?_ ?_ ?_
  · rintro recording _ event rfl
    rw [Recording.logged, Recording.logged, Array.append_push]
  · rintro recording _ rfl
    rfl
  · rintro recording _ entry _ rfl rfl
    simp only [Recording.completed, Array.append_push, apply_ite (earlier ++ ·)]
  · intro before before' after after' start final cycle pc decoding error fault
    rw [preceded_seen start, preceded_seen final]

end Likeness

/-- **Everything that a host can do is oblivious.** -/
theorem oblivious_perform (command : Command) : Oblivious command.perform := by
  intro earlier session
  have ended := (Likeness.preceded_lawful earlier).perform command session (session.behind earlier)
    (Likeness.preceded_iff.2 rfl)
  generalize command.perform.run session = outcome, command.perform.run (session.behind earlier) = other
    at ended ⊢
  cases ended with
  | ok answers states =>
      rw [Likeness.preceded_answers answers, Likeness.preceded_iff.1 states]
      rfl
  | error states =>
      rw [Likeness.preceded_iff.1 states]
      rfl

/-! ## Runs -/

namespace Session

variable {session : Session} {earlier : Journal}

lemma reply_behind (command : Command) : (session.behind earlier).reply command = session.reply command := by
  rw [reply, reply, oblivious_perform]
  cases command.perform.run session <;> rfl

lemma after_behind (command : Command) :
    (session.behind earlier).after command.perform = (session.after command.perform).behind earlier := by
  rw [after, after, oblivious_perform]
  cases command.perform.run session <;> rfl

/-- **Earlier events change no answer.** -/
theorem replies_behind (commands : List Command) :
    (session.behind earlier).replies commands = session.replies commands := by
  induction commands generalizing session with
  | nil => rfl
  | cons command rest ih => rw [replies, replies, reply_behind, after_behind, ih]

/-- **Earlier events change nothing that a run does.** -/
theorem performAll_behind (commands : List Command) :
    (session.behind earlier).performAll commands = (session.performAll commands).behind earlier := by
  induction commands generalizing session with
  | nil => rfl
  | cons command rest ih => rw [performAll_cons, performAll_cons, after_behind, ih]

end Session
end Chip8
