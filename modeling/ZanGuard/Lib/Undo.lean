import ZanGuard.Lib.Sessions

/-! What a client keeps of the data when it commits its transaction, and when it takes it back. -/

namespace Transaction

variable {S D E α : Type} {Answer : S → Type}

/-- A property of the committed data, and how the data of a transaction has grown out of it. -/
structure Server.Keeps (server : Server S D E Answer) (inv : D → Prop) (grown : D → D → Prop) :
    Prop where
  start : ∀ {data}, inv data → grown data data
  exec : ∀ {statement : S} {committed data : D} {answer : Answer statement} {after : D},
    grown committed data → server.exec statement data = .ok (answer, after) → grown committed after
  commit : ∀ {committed data}, grown committed data → inv data
  undo : ∀ {committed data}, inv committed → grown committed data →
    inv (server.undo committed data)

/-- A session whose data has the property, with a transaction that has grown out of it. -/
def Session.Sound (inv : D → Prop) (grown : D → D → Prop) (session : Session D) : Prop :=
  inv session.committed ∧ ∀ work ∈ session.work, grown session.committed work.data

section Keeps

variable {server : Server S D E Answer} {inv : D → Prop} {grown : D → D → Prop}
  {session : Session D}

theorem Session.Sound.idle {committed : D} (kept : inv committed) :
    (Session.idle committed).Sound inv grown := by
  refine ⟨kept, fun work open_ => ?_⟩
  cases open_

/-- A transaction that is taken back leaves the property. -/
theorem Server.Keeps.abandon (keeps : server.Keeps inv grown) (sound : session.Sound inv grown) :
    (server.abandon session).Sound inv grown := by
  unfold Server.abandon
  split
  · exact sound
  · rename_i work opened
    exact .idle (keeps.undo sound.1 (sound.2 work opened))

/-- Every request of a transaction leaves a sound session. -/
theorem Server.Keeps.step (keeps : server.Keeps inv grown) (sound : session.Sound inv grown)
    {request : Request S} (within : ∀ statement, request ≠ .auto statement) :
    (server.step session request).2.Sound inv grown := by
  -- A statement of the transaction changes its data, and only its end what is committed.
  cases request with
  | auto statement => exact absurd rfl (within statement)
  | start =>
    refine ⟨sound.1, fun work opened => ?_⟩
    obtain rfl := Option.some.inj opened
    exact keeps.start sound.1
  | exec statement =>
    simp only [Server.step, Server.execWithin]
    split
    · exact sound
    · rename_i work opened
      have old := sound.2 work opened
      split
      · exact sound
      · split
        · refine ⟨sound.1, fun work same => ?_⟩
          obtain rfl := Option.some.inj same
          exact old
        · rename_i answer data ran
          refine ⟨sound.1, fun work same => ?_⟩
          obtain rfl := Option.some.inj same
          exact keeps.exec old ran
  | commit =>
    simp only [Server.step]
    split
    · exact sound
    · rename_i work opened
      split
      · exact keeps.abandon sound
      · exact .idle (keeps.commit (sound.2 work opened))
  | rollback =>
    simp only [Server.step]
    split
    · exact sound
    · exact keeps.abandon sound

/-- So does a client that sends nothing outside of transactions. -/
theorem Server.Keeps.run (keeps : server.Keeps inv grown) {Q : Request S → Prop} {post : α → Prop}
    {script : Script S Answer E α} (sends : script.Sends Q post)
    (within : ∀ statement, ¬ Q (.auto statement)) (sound : session.Sound inv grown) :
    (script.run server session).2.Sound inv grown := by
  -- The induction is on the client, one request at a time.
  induction script generalizing session with
  | done value => exact sound
  | ask request next ih =>
    refine ih _ (sends.2 _) (keeps.step sound fun statement same => ?_)
    exact within statement (same ▸ sends.1)

end Keeps

end Transaction
