import Mathlib.Data.List.Basic

/-! What several parties do one at a time, in one log, and what each of them has done of it. -/

namespace RabbitStreamer.Lib.Interleaving

variable {ι α β : Type} [DecidableEq ι]

def own (log : List (ι × α)) (party : ι) : List α :=
  (log.filter fun entry => entry.1 = party).map Prod.snd

theorem own_append (first second : List (ι × α)) (party : ι) :
    own (first ++ second) party = own first party ++ own second party := by
  rw [own, List.filter_append, List.map_append]
  rfl

theorem own_snoc_self (log : List (ι × α)) (party : ι) (entry : α) :
    own (log ++ [(party, entry)]) party = own log party ++ [entry] := by
  rw [own_append]
  simp [own]

theorem own_snoc_other (log : List (ι × α)) {party other : ι} (differs : other ≠ party) (entry : α) :
    own (log ++ [(other, entry)]) party = own log party := by
  rw [own_append]
  simp [own, differs]

end RabbitStreamer.Lib.Interleaving
