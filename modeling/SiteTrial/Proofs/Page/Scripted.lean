import SiteTrial.Proofs.Answers
import SiteTrial.Proofs.Page.Heard
import SiteTrial.Rehearsal.Page

/-!
# Scripted pages keep their word

A scripted page does what its script says, and its mishaps are part of the script: no call changes them. So what its
mishaps do not spoil holds of it for good.

* `ScriptedPage.mishaps_of_reaches` : the mishaps stay the same;
* `ScriptedPage.waitsForUrl` : where it says that an address of some kind is there, one is there.
-/

namespace SiteTrial

namespace ScriptedPage

theorem mishaps_whatever (p : ScriptedPage) {x : Except Fault (Value × ScriptedPage)}
    (h : ∀ y, x = .ok y → y.2.mishaps = p.mishaps) : (p.whatever x).page.mishaps = p.mishaps := by
  cases x with
  | error f => rfl
  | ok y => exact h y rfl

theorem mishaps_act (p : ScriptedPage) (n now : Nat) (c : Call) : (p.act n now c).page.mishaps = p.mishaps := by
  cases c with
  | waitFor selector condition limit => cases condition <;> rfl
  | click selector =>
      refine mishaps_whatever p fun y hy => ?_
      obtain ⟨found, -, rfl⟩ := exists_of_map hy
      cases found <;> rfl
  | count selector =>
      refine mishaps_whatever p fun y hy => ?_
      obtain ⟨found, -, rfl⟩ := exists_of_map hy
      rfl
  | evaluate script =>
      cases script with
      | markTiming label =>
          refine mishaps_whatever p fun y hy => ?_
          obtain ⟨state, -, rfl⟩ := exists_of_map hy
          rfl
      | _ => rfl
  | _ => rfl

theorem mishaps_respond (c : Call) (now : Nat) (p : ScriptedPage) :
    (Page.respond c now p).page.mishaps = p.mishaps := by
  show (respond c now p).page.mishaps = _
  unfold respond
  cases p.mishap? c.name with
  | some reply => rfl
  | none => exact mishaps_act _ _ _ _

theorem mishaps_of_reaches {p q : ScriptedPage} (h : Page.Reaches p q) : q.mishaps = p.mishaps := by
  induction h with
  | here => rfl
  | next c now _ ih => rw [mishaps_respond, ih]

theorem exists_of_mishap? {p : ScriptedPage} {name : String} {reply : Reply} (h : p.mishap? name = some reply) :
    ∃ m ∈ p.mishaps, m.reply = reply := by
  obtain ⟨m, hm, rfl⟩ := Option.map_eq_some_iff.1 h
  exact ⟨m, List.mem_of_find?_eq_some hm, rfl⟩

/-- A scripted page is true to its word about its address, unless a mishap makes it lie. -/
theorem waitsForUrl {p : ScriptedPage} (h : ∀ m ∈ p.mishaps, ¬ m.reply.IsAnswer) : Page.WaitsForUrl p := by
  intro q hq test limit now
  show (respond _ now q).reply.IsAnswer → test.accepts (url (respond _ now q).page) = true
  unfold respond
  cases hstruck : q.mishap? (Call.waitForUrl test limit).name with
  | some reply =>
      obtain ⟨m, hm, rfl⟩ := exists_of_mishap? hstruck
      rw [mishaps_of_reaches hq] at hm
      exact fun hanswer => absurd hanswer (h m hm)
  | none =>
      show (if test.accepts q.url then Reply.answer .null else .timedOut).IsAnswer → test.accepts q.url = true
      split
      · next haccepts => exact fun _ => haccepts
      · rintro ⟨_, ⟨⟩⟩

end ScriptedPage

end SiteTrial
