import FlowPlan.Edge
import FlowPlan.Proofs.DateText
import FlowPlan.Proofs.Reader
import FlowPlan.Timestepper

namespace FlowPlan

open Schema

/-- A date is read back from its text. -/
theorem Reader.inverts_date : Reader.Inverts date fun d => .text d.text := by
  intro d
  change (Date.read d.text).mapError Mismatch.badDate = .ok d
  rw [Date.read_text]
  rfl

theorem Reader.inverts_count : Reader.Inverts count fun n => .number (.integer n.toNat) := by
  intro n
  have hfits : n.toNat < 0x100000000 := n.toNat_lt
  have hbounds : 0 ≤ (n.toNat : ℤ) ∧ (n.toNat : ℤ) < 0x100000000 := by omega
  have hvalue : UInt32.ofNat (n.toNat : ℤ).toNat = n := by
    rw [Int.toNat_natCast, UInt32.ofNat_toNat]
  unfold count
  dsimp only
  rw [if_pos hbounds, hvalue]

namespace Timestepper

instance : schema.Lawful := by
  unfold schema
  infer_instance

theorem build_fields (timestepper : Timestepper) :
    schema.build timestepper.fields = .ok timestepper := by
  cases timestepper
  apply build_seq _ (build_required Reader.inverts_count rfl)
  apply build_seq _ (build_required Reader.inverts_date rfl)
  exact build_map (build_required Reader.inverts_date rfl)

end Timestepper

namespace Edge

instance : schema.Lawful := by
  unfold schema
  infer_instance

def fields (edge : Edge) : Fields :=
  [("from_node", .text edge.source), ("to_node", .text edge.target)]

theorem build_fields (edge : Edge) : schema.build edge.fields = .ok edge := by
  cases edge
  apply build_seq _ (build_text rfl)
  exact build_map (build_text rfl)

theorem proper_toDocument (edge : Edge) : edge.toDocument.Proper :=
  .mapping (show ["from_node", "to_node"].Nodup by decide) (by simp)

end Edge

end FlowPlan
