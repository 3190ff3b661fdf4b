import TapeDuel.Proofs.Keeping

/-!
# Kept bots come back, up to a length

A bot is kept with its source and its program, and the program is not compiled
again when the bot is read back. So what comes back is decided by the way through
the binary form. A compiled program passes every check on that way, and the one
thing that can go wrong is its length: a program of more than `maxElements`
instructions is kept without a complaint and never comes back.
-/

namespace TapeDuel

/-! ## Saving and loading -/

section Save

variable {ids : Nat → GameId} {n : Nat} {name : String} {source : Text} {bot : Bot}
  {r : Request}

/-- Both ways to save a compiled bot come down to keeping it. -/
theorem Request.step_save (hnew : Bot.new name source = .ok bot)
    (hr : r = .saveSource name source ∨ r = .saveBot bot) {t : Transaction}
    (hdone : t.isDone = false) :
    r.step ids n t = (.ok (.done, n), { t with current := t.current.putBot bot }) := by
  rcases hr with rfl | rfl <;>
    simp [step, unnumbered, replying, Transaction.saveBot, Transaction.change,
      hdone, hnew]

namespace LedgerStore

variable {s : LedgerStore}

/-- A transaction that lasts and saves a bot last under its name keeps it there. -/
theorem bot?_run_save {b : Batch} {before after : List Request}
    (hnew : Bot.new name source = .ok bot) (hopen : s.isOpen = true)
    (hlasts : b.Lasts ids n s.ledger) (hrequests : b.requests = before ++ r :: after)
    (hr : r = .saveSource name source ∨ r = .saveBot bot)
    (hafter : ∀ q ∈ after, q.saves? ≠ some name) :
    (s.run ids n b).2.2.ledger.bot? name =
      some ⟨name, source, Binary.writeProgram bot.program⟩ := by
  rw [run_of_lasts hopen hlasts]
  obtain ⟨⟨replies, hreplies⟩, -⟩ := hlasts
  rcases hsteps : Request.steps ids n b.requests (.start s.ledger) with ⟨result, n', t'⟩
  rw [hsteps] at hreplies
  cases hreplies
  rw [hrequests] at hsteps
  obtain ⟨_, n₁, t₁, _, hbefore, hrest⟩ := Request.exists_of_steps_append hsteps
  have hdone : t₁.isDone = false := by
    have h := (Request.outside_steps ids before n (.start s.ledger)).2
    rw [hbefore] at h
    exact h
  rw [Request.steps, Request.step_save hnew hr hdone] at hrest
  dsimp only at hrest
  have hkept := Request.bot?_steps ids hafter n₁
    { t₁ with current := t₁.current.putBot bot }
  rcases hlast : Request.steps ids n₁ after { t₁ with current := t₁.current.putBot bot }
    with ⟨failure | more, n₂, t₂⟩ <;> rw [hlast] at hrest hkept <;> cases hrest
  obtain ⟨hname, hsource, -⟩ := Bot.new_eq_ok_iff.mp hnew
  have hput := t₁.current.bot?_putBot_self bot
  rw [hname, hsource] at hput
  exact hkept.trans hput

/-- Loading a bot reads its program back, whatever else the ledger keeps. -/
theorem run_loadBot {kept : StoredBot} (hopen : s.isOpen = true)
    (hkept : s.ledger.bot? name = some kept) :
    (s.run ids n { requests := [.loadBot name] }).1 =
      match Binary.readProgram kept.program with
      | .error failure => .error (.within s!"bot {name}" failure)
      | .ok program => .ok [.bot ⟨name, kept.source, program⟩] := by
  cases hread : Binary.readProgram kept.program <;>
    simp [run, hopen, Batch.run, Request.steps, Request.step, Request.unnumbered,
      Request.replying, Transaction.loadBot, Transaction.view, Transaction.start, hkept,
      hread, Transaction.settle, Transaction.commit]

end LedgerStore

end Save

/-! ## The law and its limit -/

/-- As many increments as one likes are a compiled program. -/
theorem Program.canonical_replicate (n : Nat) :
    Program.Canonical (Array.replicate n (.plain .increment)) := by
  have hops : Program.ops (Array.replicate n (.plain .increment)) =
      List.replicate n .increment := by
    simp [Program.ops, Instruction.plain]
  refine ⟨?_, fun k i hi => ?_, fun w hw => ?_⟩
  · rw [hops]
    induction n with
    | zero => exact .nil
    | succ n ih => exact .plain rfl (ih (by simp [Program.ops, Instruction.plain]))
  · obtain ⟨-, rfl⟩ := by simpa [Array.getElem?_replicate] using hi
    rfl
  · obtain ⟨-, rfl⟩ := by simpa [Program.signs] using hw
    rfl

/-- Whoever saved a bot that compiles and committed it, and no bot of that name
since, is given it back exactly if its program has at most `maxElements`
instructions; of a longer one only the complaint about its bytes comes back. It
does not matter what else the transaction did, nor what was done with the ledger
afterwards, transactions that failed and reopening it included, unless the ledger
lies nowhere and was lost. -/
theorem LedgerStore.saved_bot_loads_up_to_maxElements {ids : Nat → GameId} {n n' : Nat}
    {name : String} {source : Text} {bot : Bot} {s : LedgerStore} {b : Batch}
    {r : Request} {before after : List Request} {uses : List Use}
    (hnew : Bot.new name source = .ok bot) (hsize : bot.program.size < 2 ^ 63)
    (hopen : s.isOpen = true) (hlasts : b.Lasts ids n s.ledger)
    (hrequests : b.requests = before ++ r :: after)
    (hr : r = .saveSource name source ∨ r = .saveBot bot)
    (hafter : ∀ q ∈ after, q.saves? ≠ some name) (huses : ∀ u ∈ uses, u.Spares name)
    (hkept : s.isKept = true ∨ Use.reopen ∉ uses)
    (hopen' : (useAll ids (s.run ids n b).2 uses).2.isOpen = true) :
    ((useAll ids (s.run ids n b).2 uses).2.run ids n'
        { requests := [.loadBot name] }).1 =
      if bot.program.size ≤ Binary.maxElements then .ok [.bot bot]
      else .error (.within s!"bot {name}" (.corrupt .malformed)) := by
  have hsaved := bot?_run_save hnew hopen hlasts hrequests hr hafter
  have hstill : (useAll ids (s.run ids n b).2 uses).2.ledger.bot? name =
      some ⟨name, source, Binary.writeProgram bot.program⟩ := by
    rw [bot?_useAll ids huses (by rwa [isKept_run]), hsaved]
  obtain ⟨hname, hsource, hcompile⟩ := Bot.new_eq_ok_iff.mp hnew
  have hbot : (⟨name, source, bot.program⟩ : Bot) = bot := by
    rw [← hname, ← hsource]
  rw [run_loadBot hopen' hstill,
    (canonical_of_compile hcompile).readProgram_writeProgram hsize]
  by_cases hshort : bot.program.size ≤ Binary.maxElements
  · rw [if_pos hshort, if_pos hshort]
    dsimp only
    rw [hbot]
  · rw [if_neg hshort, if_neg hshort]

/-- The theorem at a bot that replaces one of its name and is read back after a
transaction that failed and after the ledger was closed and opened again. -/
theorem LedgerStore.saved_bot_loads_up_to_maxElements_reopened :
    ∃ bot, Bot.new "loop" "(+)*3[-]" = .ok bot ∧ ∀ ids : Nat → GameId,
      ((useAll ids
          (run {} ids 0
            { requests := [.saveSource "loop" ">", .saveBot bot, .gameIds] }).2
          [.batch { requests := [.saveSource "other" "<", .loadBot "none"] }, .close,
            .reopen]).2.run ids 0 { requests := [.loadBot "loop"] }).1 =
        .ok [.bot bot] := by
  have hfirst : Bot.new "loop" ">" = .ok ⟨"loop", ">", #[.plain .moveForward]⟩ :=
    Bot.new_eq_ok_iff.mpr ⟨rfl, rfl, by cbv⟩
  obtain ⟨bot, hnew, hsize⟩ : ∃ bot, Bot.new "loop" "(+)*3[-]" = .ok bot ∧
      bot.program.size = 6 :=
    ⟨⟨"loop", "(+)*3[-]", #[.linked .repeatStart 2, .plain .increment, .repeatEnd 0 3,
      .linked .whileStart 5, .plain .decrement, .linked .whileEnd 3]⟩,
      Bot.new_eq_ok_iff.mpr ⟨rfl, rfl, by cbv⟩, rfl⟩
  refine ⟨bot, hnew, fun ids => ?_⟩
  have hrequests : [.saveSource "loop" ">", .saveBot bot, .gameIds] =
      [.saveSource "loop" ">"] ++ Request.saveBot bot :: [.gameIds] := rfl
  have hlasts :
      Batch.Lasts { requests := [.saveSource "loop" ">", .saveBot bot, .gameIds] }
      ids 0 .empty := by
    refine ⟨⟨[.done, .done, .ids []], ?_⟩, .inr rfl⟩
    rw [Request.steps, Request.step_save hfirst (.inl rfl) rfl]
    dsimp only
    rw [Request.steps, Request.step_save hnew (.inr rfl) rfl]
    rfl
  rw [saved_bot_loads_up_to_maxElements hnew (by omega) rfl hlasts hrequests (.inr rfl)
    (by simp [Request.saves?]) (by simp [Use.Spares, Request.saves?]) (.inl rfl) rfl,
    if_pos (by rw [hsize]; decide)]

/-- A program that is one instruction too long compiles, and it is saved, but it is
not read back. -/
theorem LedgerStore.long_bot_is_not_read_back :
    ∃ source bot, Bot.new "long" source = .ok bot ∧
      bot.program.size = Binary.maxElements + 1 ∧ ∀ ids : Nat → GameId,
      ∃ s, run {} ids 0 { requests := [.saveBot bot] } = (.ok [.done], 0, s) ∧
        (s.run ids 0 { requests := [.loadBot "long"] }).1 =
          .error (.within "bot long" (.corrupt .malformed)) := by
  obtain ⟨p, hcanonical, hsize⟩ : ∃ p : Program, p.Canonical ∧
      p.size = Binary.maxElements + 1 :=
    ⟨_, Program.canonical_replicate _, Array.size_replicate⟩
  have hread : Binary.readProgram (Binary.writeProgram p) =
      .error (.corrupt .malformed) := by
    rw [hcanonical.readProgram_writeProgram (by rw [hsize]; decide), if_neg (by omega)]
  let bot : Bot := ⟨"long", p.render, p⟩
  refine ⟨p.render, bot, Bot.new_eq_ok_iff.mpr ⟨rfl, rfl, hcanonical.compile_render⟩,
    hsize, fun ids => ⟨{ ledger := Ledger.empty.putBot bot }, rfl, ?_⟩⟩
  rw [run_loadBot rfl (Ledger.empty.bot?_putBot_self bot), hread]
  rfl

end TapeDuel
