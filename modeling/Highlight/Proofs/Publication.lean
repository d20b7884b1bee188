import Highlight.Client
import Highlight.Proofs.Atomicity
import Highlight.Proofs.Except

/-!
# A published registry refines an owned one

A client cannot tell whether its registry is its own, changed in place, or a published one, changed
on copies.  Both hold the same registry after every call and give the same replies, since an
operation that is refused leaves an owned registry as it was (`Mutation.runOn_perform`), just as the
copy that it was tried on is given up.

Tokenizers may have effects; the two conversations are compared in one run of them (`Coupled`).
-/

namespace Highlight

variable {G δ ε β : Type} {m : Type → Type} [Monad m] [LawfulMonad m]

/-! ## Snapshots -/

/-- Publishing adds one snapshot behind those that are there. -/
lemma Published.snapshots_publish (p : Published G) (r : Registry G) :
    (p.publish r).snapshots = p.snapshots ++ [r] := by
  simp [snapshots, publish]

/-- A published registry after a call that got this reply and left an owned registry as `r`. -/
def Published.follow (p : Published G) (reply : Reply G δ ε β) (r : Registry G) : Published G :=
  if reply.changed then p.publish r else p

/-- A call stores a snapshot if it is a change that has not failed, and no snapshot otherwise. -/
lemma Published.snapshots_follow (p : Published G) (reply : Reply G δ ε β) (r : Registry G) :
    (p.follow reply r).snapshots =
      if reply.changed then p.snapshots ++ [r] else p.snapshots := by
  rw [follow]
  split_ifs
  · exact p.snapshots_publish r
  · rfl

/-! ## One call -/

/-- A call gets the same reply from a published registry as from an owned one.  Behind it the
current snapshot is the owned registry, and it is a new snapshot if the call is a change that has
not failed. -/
lemma Published.coupled_answer (tokenize : Tokenizer m G δ) (p : Published G)
    (call : Call G ε β) :
    Coupled (fun owned shared => shared = (owned.1, p.follow owned.1 owned.2) ∧
        shared.2.current = owned.2)
      (p.current.answer tokenize call) (p.answer tokenize call) := by
  cases call with
  | perform operation =>
    simp only [Registry.answer, answer, Mutation.runOn_perform, perform, update]
    cases p.current.perform operation with
    | error e => exact coupled_pure ⟨rfl, rfl⟩
    | ok answer => exact coupled_pure ⟨rfl, rfl⟩
  | registered name => exact coupled_pure ⟨rfl, rfl⟩
  | languages => exact coupled_pure ⟨rfl, rfl⟩
  | highlight text name =>
    refine coupled_bind (coupled_self (p.current.highlight tokenize text name)) ?_
    rintro answer _ rfl
    exact coupled_pure ⟨rfl, rfl⟩
  | update script =>
    simp only [Registry.answer, answer, update, Script.runOnCopy]
    rcases script.run p.current with ⟨e | result, r⟩
    · exact coupled_pure ⟨rfl, rfl⟩
    · exact coupled_pure ⟨rfl, rfl⟩

/-! ## Conversations -/

/-- What two conversations with the same calls have in common, one with an owned registry and one
with a published registry that was `p` at first. -/
structure Mirrors (p : Published G) (owned : List (Exchange G δ ε β (Registry G)))
    (shared : List (Exchange G δ ε β (Published G))) : Prop where
  /-- Every call gets the same reply. -/
  replies : shared.map Exchange.reply = owned.map Exchange.reply
  /-- After every call the current snapshot is the owned registry. -/
  current : shared.map (fun e => e.after.current) = owned.map Exchange.after
  /-- A snapshot is stored for every change that has not failed, and for no other call. -/
  stored : ∀ e ∈ shared, e.after.snapshots =
    if e.reply.changed then e.before.snapshots ++ [e.after.current] else e.before.snapshots
  /-- Snapshots that have been stored once are never lost or changed. -/
  kept : (p :: shared.map Exchange.after).Pairwise fun earlier later =>
    earlier.snapshots <+: later.snapshots

/-- A conversation is mirrored if its first call is and the later ones are. -/
lemma Mirrors.cons {p p' : Published G} {r : Registry G} {reply : Reply G δ ε β}
    {owned : List (Exchange G δ ε β (Registry G))} {shared : List (Exchange G δ ε β (Published G))}
    (hfollow : p' = p.follow reply r) (hcurrent : p'.current = r) (h : Mirrors p' owned shared) :
    Mirrors p (⟨reply, p.current, r⟩ :: owned) (⟨reply, p, p'⟩ :: shared) where
  replies := by simp [h.replies]
  current := by simp [hcurrent, h.current]
  stored := by
    rw [List.forall_mem_cons]
    refine ⟨?_, h.stored⟩
    dsimp only
    rw [hfollow, p.snapshots_follow, ← hfollow, hcurrent]
  kept := by
    have hfirst : p.snapshots <+: p'.snapshots := by
      rw [hfollow, p.snapshots_follow]
      split_ifs
      · exact List.prefix_append _ _
      · exact List.prefix_refl _
    have hlater := List.pairwise_cons.mp h.kept
    refine List.pairwise_cons.mpr ⟨?_, h.kept⟩
    rw [List.map_cons, List.forall_mem_cons]
    exact ⟨hfirst, fun q hq => hfirst.trans (hlater.1 q hq)⟩

/-- A published registry refines an owned one: whatever calls a client makes, it gets the same
replies from both, and after every call the current snapshot is the owned registry.  Every change
that has not failed stores a snapshot, no other call does, and stored snapshots stay as they are. -/
theorem Published.converse_mirrors (tokenize : Tokenizer m G δ) (p : Published G)
    (calls : List (Call G ε β)) :
    Coupled (Mirrors p) (converse (Registry.answer tokenize) p.current calls)
      (converse (Published.answer tokenize) p calls) := by
  induction calls generalizing p with
  | nil => exact coupled_pure ⟨rfl, rfl, by simp, by simp⟩
  | cons call calls ih =>
    refine coupled_bind (p.coupled_answer tokenize call) ?_
    rintro ⟨reply, r⟩ _ ⟨rfl, hcurrent⟩
    dsimp only at hcurrent ⊢
    have hlater := ih (p.follow reply r)
    rw [hcurrent] at hlater
    refine coupled_bind hlater fun owned shared h => ?_
    exact coupled_pure (h.cons rfl hcurrent)

/-- An update that removes the only language and then fails leaves no trace, and one that goes on
behind a refused operation keeps what it has done. -/
theorem Published.converse_mirrors_of_failed_update :
    let tokenize : Tokenizer Id Unit String := fun _ text => .ok [.plain text]
    let calls : List (Call Unit String Nat) :=
      [.perform (.register ⟨none, [.insert "markdown" ()]⟩),
        .perform (.insertAliases "md" (.single "mkd")),
        .update (.perform (.unregister "markdown") fun _ => .finish (.error "given up")),
        .update (.perform (.insertAliases "markdown" (.single "markdown")) fun _ =>
          .perform (.insertAliases "markdown" (.single "md")) fun _ => .finish (.ok 2)),
        .highlight "# x" "md"]
    let owned : List (Exchange Unit String String Nat (Registry Unit)) :=
      Id.run (converse (Registry.answer tokenize) .empty calls)
    let shared : List (Exchange Unit String String Nat (Published Unit)) :=
      Id.run (converse (Published.answer tokenize) (.ofRegistry .empty) calls)
    Mirrors (.ofRegistry .empty) owned shared ∧
      shared.map (fun e => e.after.version) = [1, 1, 1, 2, 2] ∧
      shared.map (fun e => e.after.current.registered "md") = [false, false, false, true, true] := by
  intro tokenize calls owned shared
  exact ⟨(Published.converse_mirrors tokenize (.ofRegistry .empty) calls).of_id, by decide, by decide⟩

end Highlight
