import Mathlib.Data.List.Induction
import Stagecraft.Proofs.Variables
import Stagecraft.Variables.Requests

/-!
# Banks as total maps

Whatever is asked of a bank that starts with zeros, its slots are those of a map
that is zero where nothing was written, cut off at the end of the bank. The end lies
behind the first slots and behind all indices that were accessed, and it moves
exactly when growth is reported.
-/

namespace Stagecraft

/-! ## Histories -/

namespace BankRequest

def put? (slot : Nat) : BankRequest → Option Int32
  | .write index value => if index.toNat = slot then some value else none
  | _ => none

/-- The value last written into a slot, zero if none was. -/
def lastWritten (history : List BankRequest) (slot : Nat) : Int32 :=
  (history.filterMap (put? slot)).getLast?.getD 0

def accesses (history : List BankRequest) : List UInt16 :=
  history.filterMap accessed?

/-- The largest of a size and one more than each index that was accessed. -/
def extent (start : Nat) (history : List BankRequest) : Nat :=
  (accesses history).foldl (fun size index => max size (index.toNat + 1)) start

variable (history : List BankRequest) (request : BankRequest)

theorem lastWritten_concat (slot : Nat) :
    lastWritten (history ++ [request]) slot =
      (request.put? slot).getD (lastWritten history slot) := by
  unfold lastWritten
  rw [List.filterMap_append]
  cases put : request.put? slot with
  | none => simp [put]
  | some value => simp [put]

theorem extent_concat (start : Nat) :
    extent start (history ++ [request]) =
      match request.accessed? with
      | none => extent start history
      | some index => max (extent start history) (index.toNat + 1) := by
  unfold extent accesses
  rw [List.filterMap_append]
  cases accessed : request.accessed? with
  | none => simp [accessed]
  | some index => simp [accessed]

end BankRequest

open BankRequest

namespace VariableBank

variable {Bank : Type} [VariableBank Bank]

/-! ## One request -/

section Serving

variable (bank : Bank) (request : BankRequest)

theorem size_serve :
    size (serve bank request) =
      match request.accessed? with
      | none => size bank
      | some index => max (size bank) (index.toNat + 1) := by
  cases request with
  | get index => rfl
  | read index => simp [serve, size, values_touch, accessed?]
  | write index value => simp [serve, size, values_write, accessed?]

theorem size_le_size_serve : size bank ≤ size (serve bank request) := by
  rw [size_serve]
  split
  · exact Nat.le_refl _
  · exact Nat.le_max_left _ _

theorem slot_serve (slot : Nat) :
    (values (serve bank request))[slot]?.getD 0 =
      (request.put? slot).getD ((values bank)[slot]?.getD 0) := by
  cases request with
  | get index => rfl
  | read index => simp [serve, values_touch, put?, getD_reachIndex]
  | write index value =>
      rw [serve, values_write, getD_setIfInBounds_reachIndex, put?]
      split <;> rfl

theorem grows_eq_decide (index : UInt16) :
    grows bank index = decide (size bank ≤ index.toNat) :=
  grows_eq bank index

/-- Growth is reported exactly if there is any. -/
theorem grownFrom_reply :
    (reply bank request).grownFrom =
      if size bank < size (serve bank request) then some (size bank)
      else none := by
  rw [size_serve]
  cases request with
  | get index => simp [reply, accessed?]
  | read index | write index value =>
      have grows : size bank ≤ index.toNat ↔
          size bank < max (size bank) (index.toNat + 1) := by
        omega
      simp only [reply, accessed?, sizeIfGrows, grows_eq_decide,
        decide_eq_true_iff]
      exact if_congr grows rfl rfl

end Serving

/-! ## Series of requests -/

section Series

variable (bank : Bank) (requests : List BankRequest)

theorem size_le_size_serveAll : size bank ≤ size (serveAll bank requests) := by
  induction requests generalizing bank with
  | nil => exact Nat.le_refl _
  | cons request rest inductionHypothesis =>
      exact Nat.le_trans (size_le_size_serve bank request)
        (inductionHypothesis (serve bank request))

/-- The reply to a request is that of the bank that the requests before it leave. -/
theorem getElem?_replies {before : List BankRequest} {request : BankRequest}
    (begins : before ++ [request] <+: requests) :
    (replies bank requests)[before.length]? =
      some (reply (serveAll bank before) request) := by
  obtain ⟨later, rfl⟩ := begins
  rw [List.append_assoc]
  induction before generalizing bank with
  | nil => rfl
  | cons first rest inductionHypothesis =>
      exact inductionHypothesis (serve bank first)

theorem growths_accesses :
    growths (size bank) (accesses requests) =
      (requests.zip (replies bank requests)).filterMap fun (request, reply) =>
        reply.growthAt? request := by
  induction requests generalizing bank with
  | nil => rfl
  | cons request rest inductionHypothesis =>
      have others := inductionHypothesis (serve bank request)
      rw [size_serve] at others
      rw [replies, List.zip_cons_cons, List.filterMap_cons, ← others]
      cases request with
      | get index => rfl
      | read index | write index value =>
          simp only [accesses, List.filterMap_cons, accessed?, growths, reply,
            BankReply.growthAt?, sizeIfGrows, grows_eq_decide,
            decide_eq_true_iff]
          by_cases beyond : size bank ≤ index.toNat
          · have reached :
                max (size bank) (index.toNat + 1) = index.toNat + 1 :=
              Nat.max_eq_right (by omega)
            simp only [if_pos beyond, reached, Option.bind_some,
              Option.map_some]
          · have still : max (size bank) (index.toNat + 1) = size bank :=
              Nat.max_eq_left (by omega)
            simp only [if_neg beyond, still, Option.bind_some,
              Option.map_none]

end Series

/-! ## Banks of zeros -/

/-- Whether a bank is what a history of requests makes of a number of zeros. -/
structure Holds (start : Nat) (history : List BankRequest) (bank : Bank) :
    Prop where
  size_eq : size bank = extent start history
  slot : ∀ slot, (values bank)[slot]?.getD 0 = lastWritten history slot

theorem Holds.getElem?_values {start : Nat} {history : List BankRequest}
    {bank : Bank} (holds : Holds start history bank) (slot : Nat) :
    (values bank)[slot]? =
      if slot < extent start history then some (lastWritten history slot)
      else none := by
  rw [← holds.size_eq, ← holds.slot]
  split
  · next inside =>
      rw [Array.getElem?_eq_getElem inside]
      rfl
  · next beyond => exact Array.getElem?_eq_none (Nat.le_of_not_lt beyond)

/-- Whether a bank answers a series of requests as a map that is zero where nothing
was written, cut off where the bank ends. -/
structure RefinesMap (start : Nat) (requests : List BankRequest)
    (blank : Bank) : Prop where
  read : ∀ before index, before ++ [.read index] <+: requests →
    (replies blank requests)[before.length]?.map BankReply.value =
      some (some (lastWritten before index.toNat))
  get : ∀ before index, before ++ [.get index] <+: requests →
    (replies blank requests)[before.length]?.map BankReply.value =
        some (if index.toNat < extent start before then
          some (lastWritten before index.toNat) else none) ∧
      serveAll blank (before ++ [.get index]) = serveAll blank before
  grown : ∀ before request, before ++ [request] <+: requests →
    (replies blank requests)[before.length]?.map BankReply.grownFrom =
      some (if size (serveAll blank before) <
            size (serveAll blank (before ++ [request])) then
          some (size (serveAll blank before)) else none)
  reported : growths start (accesses requests) =
    (requests.zip (replies blank requests)).filterMap fun (request, reply) =>
      reply.growthAt? request
  size_eq : ∀ before, before <+: requests →
    size (serveAll blank before) = extent start before
  ascends : ∀ before after, before <+: after → after <+: requests →
    size (serveAll blank before) ≤ size (serveAll blank after)
  slot : ∀ slot < extent start requests,
    (values (serveAll blank requests))[slot]? =
      some (lastWritten requests slot)

section Zeros

variable {start : Nat} {blank : Bank}
  (zeros : values blank = .replicate start 0)

include zeros

theorem holds_serveAll (history : List BankRequest) :
    Holds start history (serveAll blank history) := by
  induction history using List.reverseRecOn with
  | nil =>
      refine ⟨?_, fun slot => ?_⟩
      · simp [size, zeros, extent, accesses]
      · simp only [serveAll_nil, zeros, Array.getElem?_replicate]
        split <;> rfl
  | append_singleton history request inductionHypothesis =>
      rw [serveAll_append, serveAll_cons, serveAll_nil]
      refine ⟨?_, fun slot => ?_⟩
      · rw [size_serve, extent_concat, inductionHypothesis.size_eq]
      · rw [slot_serve, lastWritten_concat, inductionHypothesis.slot]

theorem refinesMap (requests : List BankRequest) :
    RefinesMap start requests blank := by
  have holds (history : List BankRequest) := holds_serveAll zeros history
  constructor
  case read =>
    intro before index begins
    rw [getElem?_replies blank requests begins, Option.map_some, reply,
      value_eq, valueAt, (holds before).slot]
  case get =>
    intro before index begins
    refine ⟨?_, ?_⟩
    · rw [getElem?_replies blank requests begins, Option.map_some, reply,
        get?_eq, (holds before).getElem?_values]
    · rw [serveAll_append]
      rfl
  case grown =>
    intro before request begins
    rw [getElem?_replies blank requests begins, Option.map_some, grownFrom_reply,
      serveAll_append, serveAll_cons, serveAll_nil]
  case reported =>
    have reported := growths_accesses blank requests
    rwa [size, zeros, Array.size_replicate] at reported
  case size_eq => exact fun before _ => (holds before).size_eq
  case ascends =>
    intro before after begins _
    obtain ⟨later, rfl⟩ := begins
    rw [serveAll_append]
    exact size_le_size_serveAll _ later
  case slot =>
    intro slot inside
    rw [(holds requests).getElem?_values, if_pos inside]

end Zeros

end VariableBank

/-! ## Touched variables -/

theorem GameBank.touched_serveAll (bank : GameBank)
    (requests : List BankRequest) :
    (VariableBank.serveAll bank requests).touched =
      (accesses requests).foldl
        (fun indices index => insertIndex index indices) bank.touched := by
  induction requests generalizing bank with
  | nil => rfl
  | cons request rest inductionHypothesis =>
      rw [VariableBank.serveAll_cons, inductionHypothesis]
      cases request <;> rfl

namespace VariableBank

/-- Both banks refine a total map, and the game bank touches exactly the indices that
are read or written. -/
theorem banks_refine_total_maps (start : Nat) (requests : List BankRequest) :
    RefinesMap start requests (CubeBank.blank start) ∧
      RefinesMap start requests (GameBank.blank start) ∧
      (serveAll (GameBank.blank start) requests).touched.Pairwise (· < ·) ∧
      ∀ index,
        index ∈ (serveAll (GameBank.blank start) requests).touched ↔
          index ∈ accesses requests := by
  refine ⟨refinesMap rfl requests, refinesMap rfl requests, ?ascends, ?_⟩
  case ascends =>
    rw [GameBank.touched_serveAll]
    exact ascending_foldl_insertIndex .nil _
  · intro index
    rw [GameBank.touched_serveAll, mem_foldl_insertIndex]
    exact or_iff_left List.not_mem_nil

end VariableBank

end Stagecraft
