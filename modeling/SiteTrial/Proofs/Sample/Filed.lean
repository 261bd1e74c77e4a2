import SiteTrial.Page.Session
import SiteTrial.Proofs.Answers

/-!
# Times that are filed together

Signing in and watching a dashboard measure several times and file them one after another at the end.

* `Recorder.Extends` : a recorder holds certain navigation times beside what another one holds;
* `Browse.run_fileAll` : filing times makes it so, and does nothing else.
-/

namespace SiteTrial

/-- The second recorder holds these navigation times, in ticks, and under every other key and heading it holds what
the first one holds. -/
structure Recorder.Extends (r r' : Recorder) (times : Table Nat) : Prop where
  navigation : ∀ key, r'.navigation.get? key = ((times.get? key).map Measurement.elapsed).or (r.navigation.get? key)
  apiResponse : r'.apiResponse = r.apiResponse
  formProcessing : r'.formProcessing = r.formProcessing

theorem Table.get?_cons {β : Type} (name k : String) (b : β) (t : Table β) :
    get? ((name, b) :: t) k = if k = name then some b else t.get? k := by
  by_cases h : k = name
  · simp [get?, h]
  · simp [get?, List.lookup_cons, h, beq_eq_false_iff_ne.2]

theorem Table.get?_eq_none {β : Type} {t : Table β} {name : String} (h : name ∉ t.keys) : t.get? name = none := by
  refine List.lookup_eq_none_iff.2 fun e he => ?_
  exact bne_iff_ne.2 fun heq => h (heq ▸ List.mem_map_of_mem he)

/-- One time is filed before others with other keys. -/
theorem Recorder.Extends.cons {r r' : Recorder} {key : String} {ticks : Nat} {times : Table Nat}
    (hnew : key ∉ times.keys) (h : (r.set .navigation key (.elapsed ticks)).Extends r' times) :
    r.Extends r' ((key, ticks) :: times) where
  navigation k := by
    have hset : (r.set .navigation key (.elapsed ticks)).navigation.get? k =
        if k = key then some (.elapsed ticks) else r.navigation.get? k := Table.get?_put ..
    rw [h.navigation k, hset, Table.get?_cons]
    by_cases hk : k = key
    · rw [if_pos hk, if_pos hk, hk, Table.get?_eq_none hnew]
      rfl
    · rw [if_neg hk, if_neg hk]
  apiResponse := h.apiResponse
  formProcessing := h.formProcessing

namespace Browse

variable {σ : Type}

theorem run_fileAll {times : Table Nat} (hkeys : times.keys.Nodup) (v : Visit σ) :
    ∃ r, (times.forM fun e => record .navigation e.1 (.elapsed e.2) : Browse σ Unit).run.run v =
      (.ok (), { v with recorder := r }) ∧ v.recorder.Extends r times := by
  induction times generalizing v with
  | nil => exact ⟨v.recorder, rfl, fun _ => rfl, rfl, rfl⟩
  | cons e times ih =>
      obtain ⟨key, ticks⟩ := e
      obtain ⟨hnew, hkeys⟩ := List.nodup_cons.1 hkeys
      obtain ⟨r, hrun, hextends⟩ :=
        ih hkeys { v with recorder := v.recorder.set .navigation key (.elapsed ticks) }
      exact ⟨r, hrun, hextends.cons hnew⟩

end Browse

end SiteTrial
