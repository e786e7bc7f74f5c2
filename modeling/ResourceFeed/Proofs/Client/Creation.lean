import ResourceFeed.Proofs.Client.Lifecycle

/-! # How often an entity is created

    A new entity is sent with a `POST`.  If the server accepts it and names the
    resource in its answer, the entity is persisted, and no turn sends it so
    again.

    An answer that accepts it without naming the resource counts as a failure.
    Then the entity is as new as before, though the server may have created
    it, and the next insertion or save sends it once more.  So of all accepted
    creations of an entity only the last one can have been named, and there is
    no bound on how many come before it.
-/

namespace ResourceFeed

theorem Lifecycle.Leads.ne_new {before after : Lifecycle} (hleads : before.Leads after)
    (hnot : before ≠ .new) : after ≠ .new := by
  cases hleads with
  | stay => exact hnot
  | accepted => nofun
  | deleted => nofun

namespace Tracked

open Client (createdKey?)

/-- A `POST` and the answer to it. -/
structure Posting where
  request : Request
  answer : Except Failure Response

/-- The answer, if it accepts the creation. -/
def Posting.accepted? (posting : Posting) : Option Response :=
  match posting.answer with
  | .ok response => if response.isSuccess then some response else none
  | .error _ => none

theorem Posting.changeOutcome_answer {posting : Posting} {response : Response}
    (haccepted : posting.accepted? = some response) :
    Client.changeOutcome posting.answer = .ok response := by
  unfold accepted? at haccepted
  cases hanswer : posting.answer with
  | error failure =>
    rw [hanswer] at haccepted
    cases haccepted
  | ok answered =>
    rw [hanswer] at haccepted
    simp only at haccepted
    split at haccepted
    · rename_i hsuccess
      rw [Client.changeOutcome, if_pos hsuccess]
      exact congrArg Except.ok (Option.some.inj haccepted)
    · cases haccepted

theorem Posting.exists_refusal {posting : Posting} (hrefused : posting.accepted? = none) :
    ∃ failure, Client.changeOutcome posting.answer = .error failure := by
  unfold accepted? at hrefused
  cases hanswer : posting.answer with
  | error failure => exact ⟨failure, rfl⟩
  | ok answered =>
    rw [hanswer] at hrefused
    simp only at hrefused
    split at hrefused
    · cases hrefused
    · rename_i hsuccess
      exact ⟨_, by rw [Client.changeOutcome, if_neg hsuccess]⟩

section turns
variable {σ : Type} [Peer σ]

/-- The `POST`s of a turn.  An operation sends one request at most, so that the peer answers it in
    the state in which the operation finds it. -/
def postingsOf (tracked : Tracked) : Turn σ → List Posting
  | .edit _ => []
  | .perform client operation link =>
    ((link.sentSince ((client.perform operation).runOn tracked link).2.2).filter
        fun request => request.method = .post).map
      fun request => ⟨request, (Peer.answer request link.peer).1⟩

/-- The `POST`s of turns in order. -/
def postings (tracked : Tracked) : List (Turn σ) → List Posting
  | [] => []
  | first :: rest => tracked.postingsOf first ++ (tracked.turn first).postings rest

/-- The answers of the server to the creations that it accepted, in order. -/
def creations (tracked : Tracked) (taken : List (Turn σ)) : List Response :=
  (tracked.postings taken).filterMap Posting.accepted?

/-! ### What a turn can post -/

/-- What a turn can post of an entity, and what is left of the entity. -/
inductive Posts (tracked : Tracked) : List Posting → Tracked → Prop where
  | nothing {after} (hlifecycle : after.lifecycle = .new ↔ tracked.lifecycle = .new) :
      Posts tracked [] after
  | refused {posting} (hnew : tracked.lifecycle = .new) (hrefused : posting.accepted? = none) :
      Posts tracked [posting] tracked
  | unnamed {posting response} (hnew : tracked.lifecycle = .new)
      (haccepted : posting.accepted? = some response) (hkey : createdKey? response = none) :
      Posts tracked [posting] tracked
  | named {posting response key} (hnew : tracked.lifecycle = .new)
      (haccepted : posting.accepted? = some response) (hkey : createdKey? response = some key) :
      Posts tracked [posting] (tracked.persist (some key))

omit [Peer σ] in
/-- Of a persisted entity nothing is posted, and it does not become new. -/
theorem Posts.of_persisted {tracked after : Tracked} (hpersisted : tracked.lifecycle = .persisted)
    (hleads : tracked.lifecycle.Leads after.lifecycle) : tracked.Posts [] after := by
  have hnot : tracked.lifecycle ≠ .new := by
    rw [hpersisted]
    nofun
  exact .nothing (iff_of_false (hleads.ne_new hnot) hnot)

theorem postingsOf_perform (tracked : Tracked) (client : Client) (operation : Operation)
    (link : Link σ) :
    tracked.postingsOf (.perform client operation link) =
      (((client.plan operation tracked).request? link.versions).toList.filter
          fun request => request.method = .post).map
        fun request => ⟨request, (Peer.answer request link.peer).1⟩ := by
  unfold postingsOf
  simp only
  rw [client.runOn_perform, InPlace.link_written, Plan.sentSince_runOn]

/-- What comes of a creation that is sent. -/
theorem posts_of_insertTask {tracked : Tracked} {client : Client} {operation : Operation}
    {url : String} (hnew : tracked.lifecycle = .new)
    (hsends : client.Sends tracked operation (Client.insertTask tracked url)) (link : Link σ) :
    let task := Client.insertTask tracked url
    let request := task.request link.versions
    tracked.Posts [⟨request, (Peer.answer request link.peer).1⟩]
      (InPlace.written tracked ((Plan.send task).runOn link)).2.1 := by
  intro task request
  obtain ⟨posting, hposting⟩ : ∃ posting : Posting,
      posting = ⟨request, (Peer.answer request link.peer).1⟩ := ⟨_, rfl⟩
  have hrun : (Plan.send task).runOn link =
      ((task.conclude posting.answer).outcome, ((Plan.send task).runOn link).2) := by
    rw [hposting]
    rfl
  rw [← hposting, hrun]
  -- what becomes of the entity depends on the answer only
  cases haccepted : posting.accepted? with
  | none =>
    obtain ⟨failure, hanswer⟩ := Posting.exists_refusal haccepted
    rw [hsends.conclude_of_refused hanswer]
    exact .refused hnew haccepted
  | some response =>
    have hanswer := Posting.changeOutcome_answer haccepted
    cases hkey : createdKey? response with
    | none =>
      obtain ⟨failure, hconclude⟩ := Client.conclude_insertTask_of_unnamed hanswer hkey
      rw [hconclude]
      exact .unnamed hnew haccepted hkey
    | some key =>
      obtain ⟨note, hconclude⟩ := Client.conclude_insertTask_of_named hanswer hkey
      rw [hconclude]
      exact .named hnew haccepted hkey

/-- A turn does one of the things in `Posts`. -/
theorem posts_turn (tracked : Tracked) (taken : Turn σ) :
    tracked.Posts (tracked.postingsOf taken) (tracked.turn taken) := by
  cases taken with
  | edit cells => exact .nothing Iff.rfl
  | perform client operation link =>
    rw [postingsOf_perform]
    unfold turn
    simp only
    rw [client.runOn_perform]
    cases hplan : client.plan operation tracked with
    | ruledOut failure => exact .nothing Iff.rfl
    | nothing after =>
      obtain ⟨rfl, -, -⟩ := Client.unchanged_of_plan hplan
      exact .nothing Iff.rfl
    | send task =>
      have hleads := (becomes_of_send link hplan).leads
      cases Client.sends_of_plan hplan with
      | insert hoperation hnew haddress =>
        exact posts_of_insertTask (Client.lifecycle_of_new hnew) (.insert hoperation hnew haddress)
          link
      | update _ hpersisted hchanged hknown haddress => exact .of_persisted hpersisted hleads
      | delete hknown haddress => exact .of_persisted (persisted_of_deletePlan hplan) hleads

namespace Posts

variable {tracked after : Tracked} {posted : List Posting} (hposts : Posts tracked posted after)

omit [Peer σ]
include hposts

theorem eq_nil (hnot : tracked.lifecycle ≠ .new) : posted = [] := by
  cases hposts with
  | nothing hlifecycle => rfl
  | refused hnew hrefused => exact absurd hnew hnot
  | unnamed hnew haccepted hkey => exact absurd hnew hnot
  | named hnew haccepted hkey => exact absurd hnew hnot

/-- The entity stays new unless an accepted creation is named. -/
theorem lifecycle_eq_new_iff :
    after.lifecycle = .new ↔ tracked.lifecycle = .new ∧
      ∀ response ∈ posted.filterMap Posting.accepted?, createdKey? response = none := by
  cases hposts with
  | nothing hlifecycle => simp [hlifecycle]
  | refused hnew hrefused => simp [hnew, hrefused]
  | unnamed hnew haccepted hkey => simp [hnew, haccepted, hkey]
  | named hnew haccepted hkey => simp [hnew, haccepted, hkey, persist]

/-- A turn creates once at most. -/
theorem creations_eq : posted.filterMap Posting.accepted? = [] ∨
    ∃ response, posted.filterMap Posting.accepted? = [response] := by
  cases hposts with
  | nothing hlifecycle => exact .inl rfl
  | refused hnew hrefused => exact .inl (by simp [hrefused])
  | @unnamed posting response hnew haccepted hkey => exact .inr ⟨response, by simp [haccepted]⟩
  | @named posting response key hnew haccepted hkey => exact .inr ⟨response, by simp [haccepted]⟩

end Posts

/-! ### Along any number of turns -/

variable {tracked : Tracked}

theorem creations_cons (tracked : Tracked) (first : Turn σ) (rest : List (Turn σ)) :
    tracked.creations (first :: rest) =
      (tracked.postingsOf first).filterMap Posting.accepted? ++
        (tracked.turn first).creations rest := by
  unfold creations
  rw [postings, List.filterMap_append]

/-- An entity that is not new is not posted. -/
theorem postings_of_not_new (hnot : tracked.lifecycle ≠ .new) (taken : List (Turn σ)) :
    tracked.postings taken = [] := by
  induction taken generalizing tracked with
  | nil => rfl
  | cons first rest ih =>
    have hafter := (becomes_turn tracked first).leads.ne_new hnot
    rw [postings, (posts_turn tracked first).eq_nil hnot, ih hafter]
    rfl

/-- An entity stays new as long as no accepted creation is named. -/
theorem lifecycle_turns_eq_new_iff (tracked : Tracked) (taken : List (Turn σ)) :
    (tracked.turns taken).lifecycle = .new ↔ tracked.lifecycle = .new ∧
      ∀ response ∈ tracked.creations taken, createdKey? response = none := by
  induction taken generalizing tracked with
  | nil => simp [turns, creations, postings]
  | cons first rest ih =>
    have hrest : tracked.turns (first :: rest) = (tracked.turn first).turns rest := rfl
    rw [hrest, ih, (posts_turn tracked first).lifecycle_eq_new_iff, creations_cons,
      List.forall_mem_append, and_assoc]

/-- Only the last accepted creation can be named: after it the entity is not new any more. -/
theorem unnamed_of_mem_dropLast (tracked : Tracked) (taken : List (Turn σ)) :
    ∀ response ∈ (tracked.creations taken).dropLast, createdKey? response = none := by
  -- on the turns: a named creation is followed by no other, and one without a name may be
  induction taken generalizing tracked with
  | nil => nofun
  | cons first rest ih =>
    have hposts := posts_turn tracked first
    rw [creations_cons]
    rcases hposts.creations_eq with hnone | ⟨response, hone⟩
    · rw [hnone]
      exact ih _
    · rw [hone, List.singleton_append]
      cases hkey : createdKey? response with
      | some key =>
        have hnot : (tracked.turn first).lifecycle ≠ .new := by
          rw [Ne, hposts.lifecycle_eq_new_iff, hone]
          simp [hkey]
        have hlast : (tracked.turn first).creations rest = [] := by
          rw [creations, postings_of_not_new hnot]
          rfl
        rw [hlast]
        nofun
      | none =>
        intro other hother
        cases hlater : (tracked.turn first).creations rest with
        | nil =>
          rw [hlater] at hother
          cases hother
        | cons next later =>
          rw [hlater, List.dropLast_cons_cons, ← hlater] at hother
          rcases List.mem_cons.mp hother with rfl | hother
          · exact hkey
          · exact ih _ other hother

/-- A new entity is posted when it is inserted or saved, whatever happened before. -/
theorem postingsOf_of_new (hnew : tracked.lifecycle = .new) {client : Client}
    {operation : Operation} (hoperation : operation = .insert ∨ operation = .save) {url : String}
    (haddress : client.site.collectionUrl tracked.entity.type.kind = .ok url) (link : Link σ) :
    ∃ posting : Posting, tracked.postingsOf (.perform client operation link) = [posting] ∧
      posting.request.url = url := by
  have hstate : tracked.state = .new := by
    unfold state
    rw [hnew]
  have hinsert : client.insertPlan tracked = .send (Client.insertTask tracked url) := by
    unfold Client.insertPlan
    rw [if_neg (by simp [hstate]), haddress]
    rfl
  have hplan : client.plan operation tracked = .send (Client.insertTask tracked url) := by
    rcases hoperation with rfl | rfl
    · exact hinsert
    · unfold Client.plan Client.savePlan
      simp only [hstate]
      exact hinsert
  let request := (Client.insertTask tracked url).request link.versions
  refine ⟨⟨request, (Peer.answer request link.peer).1⟩, ?_, rfl⟩
  rw [postingsOf_perform, hplan]
  rfl

/-- **How often an entity is created.**  Whatever is done to an entity and whatever its clients are
    answered:

    * of the creations that servers accepted only the last one can have been named in the answer;
    * the entity stays new exactly as long as none of them was named;
    * when one was named, no later turn sends a `POST`;
    * so if servers name what they create, there is one accepted creation at most;
    * but a new entity whose creations were all accepted without a name is posted again by the next
      insertion or save. -/
theorem creations_of_turns (start : Tracked) (taken : List (Turn σ)) :
    (∀ response ∈ (start.creations taken).dropLast, createdKey? response = none) ∧
      ((start.turns taken).lifecycle = .new ↔ start.lifecycle = .new ∧
        ∀ response ∈ start.creations taken, createdKey? response = none) ∧
      ((∃ response ∈ start.creations taken, createdKey? response ≠ none) →
        ∀ later : List (Turn σ), (start.turns taken).postings later = []) ∧
      ((∀ response ∈ start.creations taken, createdKey? response ≠ none) →
        (start.creations taken).length ≤ 1) ∧
      (start.lifecycle = .new →
        (∀ response ∈ start.creations taken, createdKey? response = none) →
        ∀ (client : Client) operation (link : Link σ) url,
          operation = .insert ∨ operation = .save →
          client.site.collectionUrl (start.turns taken).entity.type.kind = .ok url →
          ∃ posting : Posting,
            (start.turns taken).postingsOf (.perform client operation link) = [posting] ∧
              posting.request.url = url) := by
  have hnew := lifecycle_turns_eq_new_iff start taken
  have hunnamed := unnamed_of_mem_dropLast start taken
  refine ⟨hunnamed, hnew, ?_, ?_, ?_⟩
  · rintro ⟨response, hmem, hkey⟩ later
    have hnot : (start.turns taken).lifecycle ≠ .new := by
      intro hstill
      exact hkey ((hnew.mp hstill).2 response hmem)
    exact postings_of_not_new hnot later
  · intro hnamed
    -- a creation before the last one would be both named and not named
    have hempty : (start.creations taken).dropLast = [] := by
      rw [List.eq_nil_iff_forall_not_mem]
      intro response hmem
      exact hnamed response ((List.dropLast_sublist _).mem hmem) (hunnamed response hmem)
    have hlength := congrArg List.length hempty
    rw [List.length_dropLast, List.length_nil] at hlength
    omega
  · intro hstart hall client operation link url hoperation haddress
    exact postingsOf_of_new (hnew.mpr ⟨hstart, hall⟩) hoperation haddress link

end turns

/-! ### A contact that is inserted and saved -/

section contacts
open SharedVersions.Counter (body client contact entry_of_body)

theorem createdKey?_body : createdKey? ⟨201, none, body⟩ = some "C1" := by
  unfold createdKey?
  rw [entry_of_body]

/-- A server that names what it creates is asked for it once. -/
theorem contact_is_created_once :
    Obliging.fresh.creations [.perform client .insert Obliging.link] = [⟨201, none, body⟩] ∧
      ∀ later : List (Turn Obliging.Server),
        (Obliging.fresh.turns [.perform client .insert Obliging.link]).postings later = [] := by
  have hcreations :
      Obliging.fresh.creations [.perform client .insert Obliging.link] = [⟨201, none, body⟩] := by
    rw [creations_cons, postingsOf_perform]
    rfl
  obtain ⟨-, -, hnamed, -⟩ :=
    creations_of_turns Obliging.fresh [.perform client .insert Obliging.link]
  refine ⟨hcreations, fun later => hnamed ⟨⟨201, none, body⟩, ?_, ?_⟩ later⟩
  · rw [hcreations]
    exact List.mem_cons_self
  · rw [createdKey?_body]
    nofun

/-- A server that accepts everything and answers nothing. -/
structure Silent where

instance : Peer Silent where
  answer _ server := (.ok ⟨201, none, []⟩, server)

/-- A link to this server. -/
def Silent.link : Link Silent :=
  ⟨.empty none, ⟨⟩, [], []⟩

/-- A server that does not name what it creates is asked for it twice. -/
theorem contact_is_created_twice :
    Obliging.fresh.creations
        [.perform client .insert Silent.link, .perform client .save Silent.link] =
      [⟨201, none, []⟩, ⟨201, none, []⟩] := rfl

end contacts

end Tracked
end ResourceFeed
