import ZanGuard.Api.Tenants
import ZanGuard.Lib.Fallible
import ZanGuard.Lib.Pages

/-! Pages of the tenant listing: when a page is the window it is asked for, and what pages add up to. -/

namespace ZanGuard.Api

open Memory

variable {V : Type}

/-! ### Parameters -/

/-- The numbers an integer parameter may hold: those of a 64-bit `int` that are not negative. -/
def Admitted (n : Int) : Prop :=
  0 ≤ n ∧ n < 2 ^ 63

/-- The value of a text of digits, when it is in range. -/
theorem atoi_of_digits {text : String} {n : Nat} (digits : digitsValue text.toList = some n) :
    atoi text = if n < 2 ^ 63 then some (n : Int) else none := by
  unfold atoi
  split
  -- A sign is no digit, so the text has none.
  · rename_i rest signed
    rw [signed] at digits
    simp [digitsValue] at digits
  · rename_i rest signed
    rw [signed] at digits
    simp [digitsValue] at digits
  · -- The lower bound of the range is met by every number without a sign.
    rw [digits]
    show (if -2 ^ 63 ≤ (n : Int) ∧ (n : Int) < 2 ^ 63 then some (n : Int) else none) = _
    refine if_congr ?_ rfl rfl
    omega

/-- What is parsed is admitted. -/
theorem parseNonNegativeInt_admitted {raw name : String} {n : Int}
    (parsed : parseNonNegativeInt raw name = .ok n) : Admitted n := by
  unfold parseNonNegativeInt at parsed
  cases value : atoi raw with
  | none => simp [value] at parsed
  | some m =>
    simp only [value] at parsed
    split at parsed
    · cases parsed
    · obtain rfl := Except.ok.inj parsed
      -- The range was checked with the sign.
      unfold atoi at value
      dsimp only at value
      split at value
      · cases value
      · split at value
        · obtain rfl := Option.some.inj value
          constructor <;> omega
        · cases value

/-- Every number that is admitted is parsed from its decimal text. -/
theorem optionalInt_repr {n : Nat} (small : n < 2 ^ 63) (name : String) :
    optionalInt n.repr name = .ok (n : Int) := by
  -- The decimal text of a number has nothing but digits.
  have value := atoi_of_digits (digitsValue_repr n)
  rw [if_pos small] at value
  have positive : ¬ (n : Int) < 0 := by omega
  simp [optionalInt, Nat.repr_ne_empty, parseNonNegativeInt, value, positive]

/-- A greater number is refused. -/
theorem optionalInt_repr_large {n : Nat} (large : 2 ^ 63 ≤ n) (name : String) :
    optionalInt n.repr name = .error (.text 400 (name ++ " must be an integer")) := by
  have value := atoi_of_digits (digitsValue_repr n)
  rw [if_neg (by omega)] at value
  simp [optionalInt, Nat.repr_ne_empty, parseNonNegativeInt, value]

/-! ### One page -/

/-- The tenants at the positions from the offset on, and within the limit if there is one. -/
def window (f : TenantFilter) (tenants : List (Tenant V)) : List (Tenant V) :=
  (tenants.zipIdx.filter fun item =>
    decide (f.offset ≤ item.2) &&
      (decide (f.limit ≤ 0) || decide (item.2 < f.offset + f.limit))).map (·.1)

/-- The window of a filter, as a part of the list. -/
theorem window_eq {f : TenantFilter} (tenants : List (Tenant V)) (offset : 0 ≤ f.offset) :
    window f tenants =
      (tenants.take (if f.limit > 0 then (f.offset + f.limit).toNat else tenants.length)).drop
        f.offset.toNat := by
  rw [← Pages.between_eq, window, Pages.between]
  congr 1
  refine List.filter_congr fun item member => ?_
  -- Every position is below the length.
  have inside := (List.mem_zipIdx (x := item.1) (i := item.2) member).2.1
  rw [Bool.eq_iff_iff]
  simp only [Bool.and_eq_true, Bool.or_eq_true, decide_eq_true_eq]
  split <;> omega

/-- A page is the window it is asked for where the end of the window is a 64-bit `int`. -/
theorem applyTenantFilter_window {f : TenantFilter} {tenants : List (Tenant V)}
    (offset : Admitted f.offset) (limit : Admitted f.limit)
    (fits : 0 < f.limit → f.offset < tenants.length → f.offset + f.limit < 2 ^ 63) :
    applyTenantFilter tenants (some f) = .ok (window f tenants) := by
  obtain ⟨offset, -⟩ := offset
  obtain ⟨limit, -⟩ := limit
  -- The window is what is left of the list after its end and its beginning are cut off.
  rw [window_eq tenants offset]
  unfold applyTenantFilter
  dsimp only
  by_cases beyond : f.offset ≥ tenants.length
  · -- The window begins behind the last tenant.
    rw [if_pos beyond, eq_comm]
    congr 1
    refine List.drop_eq_nil_of_le ?_
    rw [List.length_take]
    omega
  · rw [if_neg beyond, if_neg (show ¬ f.offset < 0 by omega)]
    by_cases limited : f.limit > 0
    · -- The sum is in range, so it is what it says.
      have sum : addInt f.offset f.limit = f.offset + f.limit := by
        have small := fits limited (by omega)
        unfold addInt
        exact Int.bmod_eq_of_le (by omega) (by omega)
      rw [sum, if_pos limited]
      -- An end within the list is taken as it is, any other is the length.
      by_cases within : f.offset + f.limit < tenants.length
      · rw [if_pos ⟨limited, within⟩, slice, if_pos (by omega)]
      · rw [if_neg (fun both => within both.2), slice, if_pos (by omega)]
        congr 2
        rw [Int.toNat_natCast, List.take_length, List.take_of_length_le (by omega)]
    · rw [if_neg (fun both => limited both.1), if_neg limited, slice, if_pos (by omega),
        Int.toNat_natCast]

/-- Where the end of the window is no 64-bit `int`, the page is not sliced but panics. -/
theorem applyTenantFilter_overflow {f : TenantFilter} {tenants : List (Tenant V)}
    (offset : Admitted f.offset) (limit : Admitted f.limit) (limited : 0 < f.limit)
    (before : f.offset < tenants.length) (beyond_ : 2 ^ 63 ≤ f.offset + f.limit) :
    applyTenantFilter tenants (some f) = .error .sliceBounds := by
  obtain ⟨offset, offsetSmall⟩ := offset
  obtain ⟨-, limitSmall⟩ := limit
  -- The sum wraps around to a negative number.
  have sum : addInt f.offset f.limit = f.offset + f.limit - 2 ^ 64 := by
    unfold addInt
    rw [← Int.sub_bmod_right]
    exact Int.bmod_eq_of_le (by omega) (by omega)
  unfold applyTenantFilter
  dsimp only
  rw [if_neg (by omega), if_neg (show ¬ f.offset < 0 by omega), sum,
    if_pos ⟨limited, by omega⟩, slice, if_neg (by omega)]

/-- A page is the window it is asked for exactly where the end of the window does not wrap around. -/
theorem applyTenantFilter_iff {f : TenantFilter} (tenants : List (Tenant V))
    (offset : Admitted f.offset) (limit : Admitted f.limit) :
    applyTenantFilter tenants (some f) = .ok (window f tenants) ↔
      (0 < f.limit → f.offset < tenants.length → f.offset + f.limit < 2 ^ 63) := by
  refine ⟨fun page limited before => ?_, applyTenantFilter_window offset limit⟩
  -- A page that panics is no list.
  by_contra beyond_
  rw [applyTenantFilter_overflow offset limit limited before (by omega)] at page
  cases page

/-! ### Consecutive pages -/

/-- The query of a page, by the number of the page and the size of all pages. -/
def ListTenantsQuery.page (query : ListTenantsQuery) (size k : Nat) : ListTenantsQuery :=
  { query with limit := size.repr, offset := (k * size).repr }

/-- A number of consecutive pages, as a client reads them. -/
def readPages (s : Store V) (query : ListTenantsQuery) (size count : Nat) :
    Except Failure (List (Tenant V)) := do
  let pages ← (List.range count).mapM fun k => handleListTenants s (query.page size k)
  return pages.flatten

/-- All tenants a query selects, in the order of their IDs. -/
def ListTenantsQuery.selected (query : ListTenantsQuery) (s : Store V) : List (Tenant V) :=
  s.selectTenants (some { status := .ofText query.status, parentID := query.parentID })

/-- The filter of a page that begins at a position. -/
def ListTenantsQuery.pageFilter (query : ListTenantsQuery) (size start : Nat) : TenantFilter :=
  { status := .ofText query.status, parentID := query.parentID, limit := size, offset := start }

variable {s : Store V} {query : ListTenantsQuery} {size k : Nat}

/-- The numbers of a page are read back from their texts. -/
theorem ListTenantsQuery.filter_page (small : size < 2 ^ 63) (start : k * size < 2 ^ 63) :
    (query.page size k).filter = .ok (query.pageFilter size (k * size)) := by
  simp only [ListTenantsQuery.filter, ListTenantsQuery.page, optionalInt_repr small,
    optionalInt_repr start, bind, Except.bind]
  rfl

/-- A page that ends within the range of a 64-bit `int` is answered with its part of the tenants. -/
theorem handleListTenants_page (positive : 0 < size) (small : k * size + size < 2 ^ 63) :
    handleListTenants s (query.page size k) = .ok (Pages.page size k (query.selected s)) := by
  have asked : (query.page size k).filter = .ok (query.pageFilter size (k * size)) :=
    query.filter_page (by omega) (by omega)
  unfold Pages.page
  generalize k * size = start at small asked ⊢
  have page : s.listTenants (some (query.pageFilter size start)) =
      .ok (((query.selected s).drop start).take size) := by
    have offset : (query.pageFilter size start).offset = start := rfl
    have limit : (query.pageFilter size start).limit = size := rfl
    refine (applyTenantFilter_window ⟨by omega, by omega⟩ ⟨by omega, by omega⟩
      (fun _ _ => by omega)).trans ?_
    rw [window_eq _ (by omega), offset, limit, if_pos (by omega), ← Int.natCast_add,
      Int.toNat_natCast, Int.toNat_natCast]
    -- Taking up to the end and dropping up to the offset is the same the other way round.
    rw [List.drop_take, Nat.add_sub_cancel_left]
    rfl
  simp only [handleListTenants, asked, page, bind, Except.bind]
  rfl

/-- A page that begins before the end of the tenants, and ends out of range, is not answered. -/
theorem handleListTenants_overflow (before : k * size < (query.selected s).length)
    (beyond_ : 2 ^ 63 ≤ k * size + size) (tenants : List (Tenant V)) :
    handleListTenants s (query.page size k) ≠ .ok tenants := by
  intro answered
  by_cases small : size < 2 ^ 63
  · by_cases start : k * size < 2 ^ 63
    · -- Both numbers are parsed, and their sum wraps around.
      have asked := query.filter_page small start
      have page : s.listTenants (some (query.pageFilter size (k * size))) =
          .error .sliceBounds := by
        generalize k * size = first at beyond_ before start
        have offset : (query.pageFilter size first).offset = first := rfl
        have limit : (query.pageFilter size first).limit = size := rfl
        have listed : (s.selectTenants (some (query.pageFilter size first))).length =
            (query.selected s).length := rfl
        exact applyTenantFilter_overflow ⟨by omega, by omega⟩ ⟨by omega, by omega⟩ (by omega)
          (by omega) (by omega)
      simp only [handleListTenants, asked, page, bind, Except.bind] at answered
      cases answered
    · -- The offset is refused as a parameter.
      simp only [handleListTenants, ListTenantsQuery.filter, ListTenantsQuery.page,
        optionalInt_repr small, optionalInt_repr_large (Nat.le_of_not_lt start), bind,
        Except.bind] at answered
      cases answered
  · -- The limit is refused as a parameter.
    simp only [handleListTenants, ListTenantsQuery.filter, ListTenantsQuery.page,
      optionalInt_repr_large (Nat.le_of_not_lt small), bind, Except.bind] at answered
    cases answered

/-- Consecutive pages list every tenant once exactly where the last of them ends within range. -/
theorem readPages_iff (s : Store V) (query : ListTenantsQuery) (positive : 0 < size) :
    readPages s query size (Pages.needed size (query.selected s).length) =
        .ok (query.selected s) ↔
      Pages.needed size (query.selected s).length * size < 2 ^ 63 := by
  constructor
  · intro read
    -- Without a tenant no page is needed.
    cases count : Pages.needed size (query.selected s).length with
    | zero => omega
    | succ last =>
      by_contra beyond_
      -- The last page begins before the end of the tenants.
      have before := Pages.begins_before positive (show last < _ by rw [count]; omega)
      rw [Nat.succ_mul] at beyond_
      obtain ⟨pages, each, -⟩ := Except.of_bind_ok read
      rw [count] at each
      obtain ⟨tenants, answered⟩ := Except.mapM_ok_elem each List.self_mem_range_succ
      exact handleListTenants_overflow before (by omega) tenants answered
  · intro small
    have each : ∀ k ∈ List.range (Pages.needed size (query.selected s).length),
        handleListTenants s (query.page size k) = .ok (Pages.page size k (query.selected s)) := by
      intro k member
      -- Every page ends no later than the last one.
      have last := Nat.mul_le_mul_right size (Nat.succ_le_of_lt (List.mem_range.mp member))
      rw [Nat.succ_mul] at last
      exact handleListTenants_page positive (by omega)
    simp only [readPages, Except.mapM_ok_of_forall each, bind, Except.bind]
    show Except.ok _ = _
    rw [Pages.flatten_pages, List.take_of_length_le (Pages.length_le_needed positive _)]

/-! ### The listing -/

/-- Whether a query asks for a tenant, by its status and its parent. -/
def ListTenantsQuery.asksFor (query : ListTenantsQuery) (t : Tenant V) : Bool :=
  (TenantStatus.ofText query.status == .other "" || t.status == .ofText query.status) &&
    (query.parentID == "" || t.parentTenantID == query.parentID)

/-- What is selected is what a query asks for, each stored tenant once. -/
theorem selected_perm (s : Store V) (query : ListTenantsQuery) :
    (query.selected s).Perm ((s.tenants.entries.map (·.2)).filter query.asksFor) :=
  List.mergeSort_perm _ _

/-- What is selected is in the order of the IDs. -/
theorem selected_ordered (s : Store V) (query : ListTenantsQuery) :
    (query.selected s).Pairwise fun a b => a.id ≤ b.id := by
  -- The order of texts is transitive and total.
  have trans_ : ∀ a b c : Tenant V, decide (a.id ≤ b.id) = true → decide (b.id ≤ c.id) = true →
      decide (a.id ≤ c.id) = true := fun a b c => by simpa using String.le_trans
  have total : ∀ a b : Tenant V, (decide (a.id ≤ b.id) || decide (b.id ≤ a.id)) = true :=
    fun a b => by simpa using String.le_total a.id b.id
  exact (List.pairwise_mergeSort trans_ total _).imp fun ordered => of_decide_eq_true ordered

/--
A page is the window it is asked for exactly where the end of the window does not wrap around.

Consecutive pages of one size then list every tenant once in the order of the IDs, exactly where the
last page ends within range.
-/
theorem tenant_pages_exact (tenants : List (Tenant V)) (f : TenantFilter)
    (offset : Admitted f.offset) (limit : Admitted f.limit) (s : Store V)
    (query : ListTenantsQuery) (size : Nat) (positive : 0 < size) :
    (applyTenantFilter tenants (some f) = .ok (window f tenants) ↔
      (0 < f.limit → f.offset < tenants.length → f.offset + f.limit < 2 ^ 63)) ∧
    (readPages s query size (Pages.needed size (query.selected s).length) =
        .ok (query.selected s) ↔
      Pages.needed size (query.selected s).length * size < 2 ^ 63) ∧
    (query.selected s).Perm ((s.tenants.entries.map (·.2)).filter query.asksFor) ∧
    (query.selected s).Pairwise fun a b => a.id ≤ b.id :=
  ⟨applyTenantFilter_iff tenants offset limit, readPages_iff s query positive,
    selected_perm s query, selected_ordered s query⟩

/-- Two tenants in the order of their IDs. -/
def twoTenants : List (Tenant Empty) :=
  [{ id := "acme" }, { id := "globex" }]

/-- The second tenant is the second page of size one. -/
theorem tenant_pages_exact_second :
    let f : TenantFilter := { offset := 1, limit := 1 }
    let s : Store Empty := { Store.new with
      tenants := AList.insert "acme" { id := "acme" } (AList.singleton "globex" { id := "globex" }) }
    applyTenantFilter twoTenants (some f) = .ok (window f twoTenants) ∧
      readPages s {} 1 (Pages.needed 1 (ListTenantsQuery.selected {} s).length) =
        .ok (ListTenantsQuery.selected {} s) := by
  intro f s
  obtain ⟨page, pages, -, -⟩ := tenant_pages_exact twoTenants f ⟨by decide, by decide⟩
    ⟨by decide, by decide⟩ s {} 1 (by decide)
  refine ⟨page.mpr (by decide), pages.mpr ?_⟩
  have two : (ListTenantsQuery.selected {} s).length = 2 := by
    rw [(selected_perm s {}).length_eq]
    decide
  rw [two]
  decide

/-- The greatest limit and a page that does not begin at the first tenant are a panic. -/
theorem tenant_page_panics :
    let f : TenantFilter := { offset := 1, limit := 2 ^ 63 - 1 }
    Admitted f.offset ∧ Admitted f.limit ∧
      applyTenantFilter twoTenants (some f) = .error .sliceBounds ∧
      applyTenantFilter twoTenants (some f) ≠ .ok (window f twoTenants) := by
  refine ⟨⟨by decide, by decide⟩, ⟨by decide, by decide⟩, by decide, by decide⟩

end ZanGuard.Api
