import Mathlib.Algebra.GroupWithZero.Nat
import Mathlib.Data.List.Pairwise

/-!
# The charges of media uploads (`api/src/media_http.rs`)

An upload first charges its account: it reserves a row of the ledger with a lease, puts the objects, and then
completes the row. If it does not, the lease expires, and reconciliation passes take the row over: the first
quarantines it for another lease, and a later one makes it ready once there is a manifest.

**`quota_lawful`**: an account has one row for a content, whose charge never changes and never lapses; what an
account is charged is within its quota; and a row becomes ready, for good, only through the holder of its
current token, who has put the objects or found the manifest.

The transactions are cut at their statements; each holds the advisory lock of the content and, where the
code takes it, that of the account from the cut at which it gets it to its end. The database's clock may show
anything. Objects may be put long after the upload that puts them was given up. No caller asks for the
terminal state `failed`.
-/

namespace Fmarch.Api.MediaQuota

open Function (update update_self update_of_ne)

open Relation

/-! ## The ledger -/

/-- `media_upload_ledger.state`. -/
inductive UploadState where
  | installing | ready | reclaiming | failed
  deriving DecidableEq

section Ledger

variable {P C : Type}

/-- `media_upload_ledger`. -/
structure LedgerRow (P C : Type) where
  uploadId : Nat
  principalId : P
  contentId : C
  storedBytes : Nat
  state : UploadState
  leaseToken : Option Nat
  leaseExpiresAt : Option Int
  deriving DecidableEq

/-- `MediaBudget`, with the bounds the server reads its environment with. -/
structure MediaBudget where
  accountQuotaBytes : Nat
  uploadLeaseSeconds : Nat
  quota_bounded : 12 * 1024 * 1024 ≤ accountQuotaBytes ∧ accountQuotaBytes ≤ 10 * 1024 * 1024 * 1024
  lease_bounded : 60 ≤ uploadLeaseSeconds ∧ uploadLeaseSeconds ≤ 24 * 60 * 60

/-- An upload that is to be charged, with its fresh id. -/
structure Upload (P C : Type) where
  principalId : P
  contentId : C
  storedBytes : Nat
  uploadId : Nat

/-- The row is that of the upload's account and content. -/
def LedgerRow.isFor [DecidableEq P] [DecidableEq C] (row : LedgerRow P C) (upload : Upload P C) : Bool :=
  decide (row.principalId = upload.principalId) && decide (row.contentId = upload.contentId)

/-- The row waits, under a lease that has not expired. -/
def LedgerRow.leased (row : LedgerRow P C) (now : Int) : Bool :=
  (row.state == .installing || row.state == .reclaiming) && row.leaseExpiresAt.any (now < ·)

/-- A row that is finished. -/
def LedgerRow.readied (row : LedgerRow P C) : LedgerRow P C :=
  { row with state := .ready, leaseToken := none, leaseExpiresAt := none }

/-! ## Statements -/

section Statements

variable [DecidableEq P] [DecidableEq C] (rows : List (LedgerRow P C))

/-- The existing row of an upload. -/
def existingRow (upload : Upload P C) : Option (LedgerRow P C) := rows.find? (·.isFor upload)

/-- What an account is charged for other contents. -/
def usedBytes (upload : Upload P C) : Nat :=
  ((rows.filter fun row => decide (row.principalId = upload.principalId) && row.state != .failed &&
    row.contentId != upload.contentId).map (·.storedBytes)).sum

/-- `i64::saturating_add`, of charges. -/
def saturatingAdd (a b : Nat) : Nat := min (a + b) (2 ^ 63 - 1)

/-- The row of a reservation. -/
def Upload.row (upload : Upload P C) (leaseExpiresAt : Int) : LedgerRow P C where
  uploadId := upload.uploadId
  principalId := upload.principalId
  contentId := upload.contentId
  storedBytes := upload.storedBytes
  state := .installing
  leaseToken := some upload.uploadId
  leaseExpiresAt := some leaseExpiresAt

/-- The write of `reserve_media_quota`. -/
def reserveRow (upload : Upload P C) (existing : Option (LedgerRow P C)) (leaseExpiresAt : Int) :
    List (LedgerRow P C) :=
  match existing with
  | some _ => rows.map fun row => if row.isFor upload then upload.row leaseExpiresAt else row
  | none => rows ++ [upload.row leaseExpiresAt]

/-- The write of `complete_media_quota_content`. -/
def completeRow (upload : Upload P C) : List (LedgerRow P C) :=
  rows.map fun row =>
    if row.isFor upload && row.uploadId == upload.uploadId && row.leaseToken == some upload.uploadId &&
        row.state == .installing then row.readied
    else row

/-- The write of `claim_media_reconciliation`. -/
def reclaimRows (contentId : C) (leaseToken : Nat) (leaseExpiresAt : Int) : List (LedgerRow P C) :=
  rows.map fun row =>
    if decide (row.contentId = contentId) && (row.state == .installing || row.state == .reclaiming) then
      { row with
        state := .reclaiming, leaseToken := some leaseToken, leaseExpiresAt := some leaseExpiresAt }
    else row

/-- The write of `finish_media_reconciliation`, with `ready`. -/
def finishRows (contentId : C) (leaseToken : Nat) : List (LedgerRow P C) :=
  rows.map fun row =>
    if decide (row.contentId = contentId) && row.state == .reclaiming && row.leaseToken == some leaseToken then
      row.readied
    else row

end Statements

/-! ## Uploads and passes -/

/-- What a task is at: an upload's reservation, its objects and its completion, or a reconciliation's claim,
its probe and its end. -/
inductive Stage (P C : Type) where
  | idle
  | contentLocked (upload : Upload P C)
  | locked (upload : Upload P C)
  | checked (upload : Upload P C) (now : Int) (existing : Option (LedgerRow P C))
  | admitted (upload : Upload P C) (now : Int) (existing : Option (LedgerRow P C))
  | uploading (upload : Upload P C) (installLease : Bool)
  | uploaded (upload : Upload P C)
  | completeLocked (upload : Upload P C)
  | completing (upload : Upload P C)
  | claiming (contentId : C)
  | claimed (contentId : C) (leaseToken : Nat) (now : Int) (hasInstalling : Bool)
  | probing (contentId : C) (leaseToken : Nat)
  | found (contentId : C) (leaseToken : Nat)
  | finishing (contentId : C) (leaseToken : Nat)
  | done

/-- The ledger as it is committed, the advisory locks, the contents whose manifest is in the object store, and
the tasks. -/
structure Db (P C : Type) where
  rows : List (LedgerRow P C) := []
  installLock : C → Option Nat := fun _ => none
  quotaLock : P → Option Nat := fun _ => none
  installed : C → Bool := fun _ => false
  stages : Nat → Stage P C := fun _ => .idle
  nextId : Nat := 0

namespace Db

variable (db : Db P C) (task : Nat)

/-- The task goes on. -/
def goto (stage : Stage P C) : Db P C := { db with stages := update db.stages task stage }

/-- The task's transaction ends with these rows committed, and its locks are released. -/
def finish (rows : List (LedgerRow P C)) : Db P C :=
  { db with
    rows
    installLock := fun contentId => if db.installLock contentId = some task then none else db.installLock contentId
    quotaLock := fun principalId =>
      if db.quotaLock principalId = some task then none else db.quotaLock principalId }

/-- `Uuid::new_v4`. -/
def newId : Db P C := { db with nextId := db.nextId + 1 }

variable [DecidableEq P] [DecidableEq C]

/-- `lock_media_install`. -/
def lockInstall (contentId : C) : Db P C :=
  { db with installLock := update db.installLock contentId (some task) }

/-- `lock_media_quota`. -/
def lockQuota (principalId : P) : Db P C :=
  { db with quotaLock := update db.quotaLock principalId (some task) }

end Db

/-- The steps that end a lease, with the token they do it by. -/
inductive Act (P C : Type) where
  | other
  | complete (upload : Upload P C)
  | finish (contentId : C) (leaseToken : Nat)

/-- One statement, or what a task does outside the database. -/
inductive Step [DecidableEq P] [DecidableEq C] (budget : MediaBudget) : Db P C → Act P C → Db P C → Prop where
  /-- `media_upload`, once the upload is prepared; its transaction takes the content's lock. -/
  | reserve {db : Db P C} {task : Nat} (idle : db.stages task = .idle) (principalId : P) (contentId : C)
      (storedBytes : Nat) (free : db.installLock contentId = none) :
      Step budget db .other ((db.newId.lockInstall task contentId).goto task
        (.contentLocked ⟨principalId, contentId, storedBytes, db.nextId⟩))
  | lockQuota {db : Db P C} {task : Nat} {upload : Upload P C} (stage : db.stages task = .contentLocked upload)
      (free : db.quotaLock upload.principalId = none) :
      Step budget db .other ((db.lockQuota task upload.principalId).goto task (.locked upload))
  /-- The existing row is none, or has the same charge, is not ready and not under a lease. -/
  | check {db : Db P C} {task : Nat} {upload : Upload P C} (now : Int)
      (stage : db.stages task = .locked upload)
      (renewable : ∀ row ∈ existingRow db.rows upload, row.storedBytes = upload.storedBytes ∧
        row.state ≠ .ready ∧ row.leased now = false) :
      Step budget db .other (db.goto task (.checked upload now (existingRow db.rows upload)))
  /-- The existing row is ready. -/
  | alreadyReady {db : Db P C} {task : Nat} {upload : Upload P C} {row : LedgerRow P C}
      (stage : db.stages task = .locked upload) (existing : existingRow db.rows upload = some row)
      (same : row.storedBytes = upload.storedBytes) (ready : row.state = .ready) :
      Step budget db .other ((db.finish task db.rows).goto task (.uploading upload false))
  | admitted {db : Db P C} {task : Nat} {upload : Upload P C} {now : Int} {existing : Option (LedgerRow P C)}
      (stage : db.stages task = .checked upload now existing)
      (within : saturatingAdd (usedBytes db.rows upload) upload.storedBytes ≤ budget.accountQuotaBytes) :
      Step budget db .other (db.goto task (.admitted upload now existing))
  | commitReservation {db : Db P C} {task : Nat} {upload : Upload P C} {now : Int}
      {existing : Option (LedgerRow P C)} (stage : db.stages task = .admitted upload now existing) :
      Step budget db .other
        ((db.finish task (reserveRow db.rows upload existing (now + budget.uploadLeaseSeconds))).goto task
          (.uploading upload true))
  /-- The manifest is put, by whoever still does. -/
  | install {db : Db P C} (contentId : C) :
      Step budget db .other { db with installed := update db.installed contentId true }
  /-- The objects are there, and the row is to be completed if this upload has its lease. -/
  | upload {db : Db P C} {task : Nat} {upload : Upload P C} {installLease : Bool}
      (stage : db.stages task = .uploading upload installLease)
      (committed : db.installed upload.contentId = true) :
      Step budget db .other (db.goto task (if installLease then .uploaded upload else .done))
  | beginCompletion {db : Db P C} {task : Nat} {upload : Upload P C} (stage : db.stages task = .uploaded upload)
      (free : db.installLock upload.contentId = none) :
      Step budget db .other ((db.lockInstall task upload.contentId).goto task (.completeLocked upload))
  | lockCompletion {db : Db P C} {task : Nat} {upload : Upload P C}
      (stage : db.stages task = .completeLocked upload) (free : db.quotaLock upload.principalId = none) :
      Step budget db .other ((db.lockQuota task upload.principalId).goto task (.completing upload))
  /-- If there is no such lease any more, nothing is written. -/
  | complete {db : Db P C} {task : Nat} {upload : Upload P C} (stage : db.stages task = .completing upload) :
      Step budget db (.complete upload) ((db.finish task (completeRow db.rows upload)).goto task .done)
  /-- A reconciliation comes to a content. -/
  | beginClaim {db : Db P C} {task : Nat} (idle : db.stages task = .idle) (contentId : C)
      (free : db.installLock contentId = none) :
      Step budget db .other ((db.lockInstall task contentId).goto task (.claiming contentId))
  /-- No row of the content is under a lease, and some row waits. -/
  | claim {db : Db P C} {task : Nat} {contentId : C} (now : Int) (stage : db.stages task = .claiming contentId)
      (expired : ∀ row ∈ db.rows, row.contentId = contentId → row.leased now = false)
      (waits : ∃ row ∈ db.rows, row.contentId = contentId ∧ (row.state = .installing ∨ row.state = .reclaiming)) :
      Step budget db .other (db.newId.goto task (.claimed contentId db.nextId now
        (db.rows.any fun row => decide (row.contentId = contentId) && row.state == .installing)))
  | commitClaim {db : Db P C} {task : Nat} {contentId : C} {leaseToken : Nat} {now : Int} {hasInstalling : Bool}
      (stage : db.stages task = .claimed contentId leaseToken now hasInstalling) :
      Step budget db .other
        ((db.finish task (reclaimRows db.rows contentId leaseToken (now + budget.uploadLeaseSeconds))).goto task
          (if hasInstalling then .done else .probing contentId leaseToken))
  /-- `probe_installed_manifest` finds the manifest. -/
  | probe {db : Db P C} {task : Nat} {contentId : C} {leaseToken : Nat}
      (stage : db.stages task = .probing contentId leaseToken) (manifest : db.installed contentId = true) :
      Step budget db .other (db.goto task (.found contentId leaseToken))
  | beginFinish {db : Db P C} {task : Nat} {contentId : C} {leaseToken : Nat}
      (stage : db.stages task = .found contentId leaseToken) (free : db.installLock contentId = none) :
      Step budget db .other ((db.lockInstall task contentId).goto task (.finishing contentId leaseToken))
  | finish {db : Db P C} {task : Nat} {contentId : C} {leaseToken : Nat}
      (stage : db.stages task = .finishing contentId leaseToken) :
      Step budget db (.finish contentId leaseToken)
        ((db.finish task (finishRows db.rows contentId leaseToken)).goto task .done)
  /-- The task is refused, fails or is stopped, and its transaction is rolled back. -/
  | stop {db : Db P C} {task : Nat} : Step budget db .other ((db.finish task db.rows).goto task .done)

/-! ## Charges -/

section Laws

variable [DecidableEq P] [DecidableEq C] {budget : MediaBudget} {rows rows' : List (LedgerRow P C)}
  {upload : Upload P C}

/-- The charges of some rows. -/
def chargesOf (chosen : LedgerRow P C → Bool) (rows : List (LedgerRow P C)) : Nat :=
  ((rows.filter chosen).map (·.storedBytes)).sum

/-- What an account is charged. -/
def accountBytes (principalId : P) (rows : List (LedgerRow P C)) : Nat :=
  chargesOf (fun row => decide (row.principalId = principalId) && row.state != .failed) rows

theorem usedBytes_eq : usedBytes rows upload = chargesOf (fun row =>
    decide (row.principalId = upload.principalId) && row.state != .failed &&
      row.contentId != upload.contentId) rows := rfl

omit [DecidableEq P] [DecidableEq C] in
theorem chargesOf_append (chosen : LedgerRow P C → Bool) (row : LedgerRow P C) :
    chargesOf chosen (rows ++ [row]) = chargesOf chosen rows + if chosen row then row.storedBytes else 0 := by
  unfold chargesOf
  rw [List.filter_append, List.map_append, List.sum_append, List.filter_cons, List.filter_nil]
  split <;> simp

/-- An update of a content's rows that keeps their charges. -/
structure Keeps (contentId : C) (rows : List (LedgerRow P C)) (change : LedgerRow P C → LedgerRow P C) :
    Prop where
  principal : ∀ row ∈ rows, (change row).principalId = row.principalId
  content : ∀ row ∈ rows, (change row).contentId = row.contentId
  charge : ∀ row ∈ rows, (change row).storedBytes = row.storedBytes
  unfailed : ∀ row ∈ rows, row.state ≠ .failed → (change row).state ≠ .failed
  elsewhere : ∀ row ∈ rows, row.contentId ≠ contentId → change row = row

variable {change : LedgerRow P C → LedgerRow P C} {contentId : C} {row : LedgerRow P C}

omit [DecidableEq P] [DecidableEq C] in
theorem chargesOf_map {chosen : LedgerRow P C → Bool}
    (hchosen : ∀ row ∈ rows, chosen (change row) = chosen row)
    (hcharge : ∀ row ∈ rows, (change row).storedBytes = row.storedBytes) :
    chargesOf chosen (rows.map change) = chargesOf chosen rows := by
  unfold chargesOf
  induction rows with
  | nil => rfl
  | cons row rows ih =>
    have hrest := ih (fun other hother => hchosen other (List.mem_cons_of_mem _ hother))
      (fun other hother => hcharge other (List.mem_cons_of_mem _ hother))
    rw [List.map_cons, List.filter_cons, List.filter_cons, hchosen row List.mem_cons_self]
    split
    · rw [List.map_cons, List.map_cons, List.sum_cons, List.sum_cons, hrest, hcharge row List.mem_cons_self]
    · exact hrest

theorem state_bne {state state' : UploadState} (h : state ≠ .failed) (h' : state' ≠ .failed) :
    (state != .failed) = (state' != .failed) := by
  rw [bne_iff_ne.2 h, bne_iff_ne.2 h']

theorem usedBytes_map (h : Keeps contentId rows change)
    (hunfailed : ∀ row ∈ rows, row.state ≠ .failed) (upload : Upload P C) :
    usedBytes (rows.map change) upload = usedBytes rows upload := by
  refine chargesOf_map (fun row hrow => ?_) h.charge
  rw [h.principal row hrow, h.content row hrow,
    state_bne (h.unfailed row hrow (hunfailed row hrow)) (hunfailed row hrow)]

omit [DecidableEq C] in
theorem accountBytes_map (h : Keeps contentId rows change)
    (hunfailed : ∀ row ∈ rows, row.state ≠ .failed) (principalId : P) :
    accountBytes principalId (rows.map change) = accountBytes principalId rows := by
  refine chargesOf_map (fun row hrow => ?_) h.charge
  rw [h.principal row hrow, state_bne (h.unfailed row hrow (hunfailed row hrow)) (hunfailed row hrow)]

/-- What an account is charged, when it has no row for the content. -/
theorem accountBytes_of_none (h : existingRow rows upload = none) :
    accountBytes upload.principalId rows = usedBytes rows upload := by
  unfold accountBytes
  rw [usedBytes_eq]
  unfold chargesOf
  refine congrArg (fun chosen : List (LedgerRow P C) => (chosen.map (·.storedBytes)).sum)
    (List.filter_congr fun row hrow => ?_)
  have hnot := List.find?_eq_none.1 h row hrow
  simp only [LedgerRow.isFor, Bool.and_eq_true, decide_eq_true_iff, not_and] at hnot
  by_cases hprincipal : row.principalId = upload.principalId
  · rw [bne_iff_ne.2 (hnot hprincipal), Bool.and_true]
  · rw [decide_eq_false hprincipal]
    simp

/-! ## Rows -/

theorem isFor_iff : row.isFor upload = true ↔
    row.principalId = upload.principalId ∧ row.contentId = upload.contentId := by
  simp [LedgerRow.isFor]

theorem existingRow_map (h : Keeps contentId rows change) (hcontent : upload.contentId ≠ contentId) :
    existingRow (rows.map change) upload = existingRow rows upload := by
  unfold existingRow
  induction rows with
  | nil => rfl
  | cons row rows ih =>
    have hrest := ih ⟨fun other hother => h.principal other (List.mem_cons_of_mem _ hother),
      fun other hother => h.content other (List.mem_cons_of_mem _ hother),
      fun other hother => h.charge other (List.mem_cons_of_mem _ hother),
      fun other hother => h.unfailed other (List.mem_cons_of_mem _ hother),
      fun other hother => h.elsewhere other (List.mem_cons_of_mem _ hother)⟩
    have hsame : (change row).isFor upload = row.isFor upload := by
      unfold LedgerRow.isFor
      rw [h.principal row List.mem_cons_self, h.content row List.mem_cons_self]
    rw [List.map_cons, List.find?_cons, List.find?_cons, hsame, hrest]
    cases hfor : row.isFor upload with
    | false => rfl
    | true =>
      have helsewhere := h.elsewhere row List.mem_cons_self ((isFor_iff.1 hfor).2 ▸ hcontent)
      rw [helsewhere]

theorem existingRow_append (h : row.isFor upload = false) :
    existingRow (rows ++ [row]) upload = existingRow rows upload := by
  unfold existingRow
  rw [List.find?_append, List.find?_cons, h]
  simp

theorem existingRow_mem (h : existingRow rows upload = some row) : row ∈ rows ∧ row.isFor upload = true := by
  unfold existingRow at h
  exact ⟨List.mem_of_find?_eq_some h, by simpa using List.find?_some h⟩

/-- What the ledger keeps: one row for an account and a content, no account above its quota, and no charge
given up. -/
structure Sound (budget : MediaBudget) (rows : List (LedgerRow P C)) : Prop where
  single : rows.Pairwise fun a b => ¬ (a.principalId = b.principalId ∧ a.contentId = b.contentId)
  within : ∀ principalId, accountBytes principalId rows ≤ budget.accountQuotaBytes
  unfailed : ∀ row ∈ rows, row.state ≠ .failed

omit [DecidableEq C] in
theorem Sound.map (h : Sound budget rows) (hkeeps : Keeps contentId rows change) : Sound budget (rows.map change) where
  single := by
    refine List.pairwise_map.2 (List.Pairwise.imp_of_mem (fun {a b} ha hb hne => ?_) h.single)
    rw [hkeeps.principal a ha, hkeeps.principal b hb, hkeeps.content a ha, hkeeps.content b hb]
    exact hne
  within principalId := by
    rw [accountBytes_map hkeeps h.unfailed]
    exact h.within principalId
  unfailed row' hrow' := by
    obtain ⟨row, hrow, rfl⟩ := List.mem_map.1 hrow'
    exact hkeeps.unfailed row hrow (h.unfailed row hrow)

theorem Sound.insert (h : Sound budget rows) (hnone : existingRow rows upload = none)
    (hwithin : usedBytes rows upload + upload.storedBytes ≤ budget.accountQuotaBytes) (leaseExpiresAt : Int) :
    Sound budget (rows ++ [upload.row leaseExpiresAt]) where
  single := by
    refine List.pairwise_append.2 ⟨h.single, List.pairwise_singleton _ _, fun row hrow new hnew => ?_⟩
    obtain rfl := List.mem_singleton.1 hnew
    exact fun hsame => List.find?_eq_none.1 hnone row hrow (isFor_iff.2 hsame)
  within principalId := by
    unfold accountBytes
    rw [chargesOf_append]
    by_cases hprincipal : upload.principalId = principalId
    · subst hprincipal
      have haccount := accountBytes_of_none hnone
      unfold accountBytes at haccount
      rw [haccount, if_pos (by simp [Upload.row])]
      exact hwithin
    · rw [if_neg (by simp [Upload.row, hprincipal])]
      exact h.within principalId
  unfailed row hrow := by
    rcases List.mem_append.1 hrow with hold | hnew
    · exact h.unfailed row hold
    · obtain rfl := List.mem_singleton.1 hnew
      simp [Upload.row]

/-! ## Writes -/

omit [DecidableEq P] [DecidableEq C] in
/-- Rows of the content are chosen, and a chosen one keeps its charge. -/
theorem Keeps.chosen {chosen : LedgerRow P C → Bool}
    (hcontent : ∀ row, chosen row = true → row.contentId = contentId)
    (hcharge : ∀ row, (change row).principalId = row.principalId ∧ (change row).contentId = row.contentId ∧
      (change row).storedBytes = row.storedBytes ∧ (change row).state ≠ .failed) :
    Keeps contentId rows fun row => if chosen row then change row else row := by
  refine ⟨fun row _ => ?_, fun row _ => ?_, fun row _ => ?_, fun row _ hrow => ?_, fun row _ hother => ?_⟩
  · simp only [apply_ite LedgerRow.principalId, (hcharge row).1, ite_self]
  · simp only [apply_ite LedgerRow.contentId, (hcharge row).2.1, ite_self]
  · simp only [apply_ite LedgerRow.storedBytes, (hcharge row).2.2.1, ite_self]
  · split
    · exact (hcharge row).2.2.2
    · exact hrow
  · exact if_neg fun hchosen => hother (hcontent row hchosen)

theorem keeps_complete (rows : List (LedgerRow P C)) (upload : Upload P C) :
    Keeps upload.contentId rows fun row =>
      if row.isFor upload && row.uploadId == upload.uploadId && row.leaseToken == some upload.uploadId &&
          row.state == .installing then row.readied
      else row := by
  refine .chosen (fun row hchosen => ?_) fun row => ⟨rfl, rfl, rfl, by simp [LedgerRow.readied]⟩
  simp only [Bool.and_eq_true] at hchosen
  exact (isFor_iff.1 hchosen.1.1.1).2

omit [DecidableEq P] in
theorem keeps_reclaim (rows : List (LedgerRow P C)) (contentId : C) (leaseToken : Nat) (leaseExpiresAt : Int) :
    Keeps contentId rows fun row =>
      if decide (row.contentId = contentId) && (row.state == .installing || row.state == .reclaiming) then
        { row with
          state := .reclaiming, leaseToken := some leaseToken, leaseExpiresAt := some leaseExpiresAt }
      else row :=
  .chosen (fun row => by simp +contextual) fun row => ⟨rfl, rfl, rfl, by simp⟩

omit [DecidableEq P] in
theorem keeps_finish (rows : List (LedgerRow P C)) (contentId : C) (leaseToken : Nat) :
    Keeps contentId rows fun row =>
      if decide (row.contentId = contentId) && row.state == .reclaiming && row.leaseToken == some leaseToken then
        row.readied
      else row :=
  .chosen (fun row => by simp +contextual) fun row => ⟨rfl, rfl, rfl, by simp [LedgerRow.readied]⟩

/-- The existing row is the only one. -/
theorem Sound.only (h : Sound budget rows) (hexisting : existingRow rows upload = some row) :
    ∀ other ∈ rows, other.isFor upload = true → other = row := by
  intro other hother hfor
  obtain ⟨hrow, hrowFor⟩ := existingRow_mem hexisting
  by_contra hne
  have hsymm : Std.Symm fun a b : LedgerRow P C =>
      ¬ (a.principalId = b.principalId ∧ a.contentId = b.contentId) :=
    ⟨fun a b hab hba => hab ⟨hba.1.symm, hba.2.symm⟩⟩
  obtain ⟨hprincipal, hcontent⟩ := isFor_iff.1 hfor
  obtain ⟨hprincipal', hcontent'⟩ := isFor_iff.1 hrowFor
  exact List.Pairwise.forall h.single hother hrow hne
    ⟨hprincipal.trans hprincipal'.symm, hcontent.trans hcontent'.symm⟩

/-- A row that is reserved again keeps its charge. -/
theorem keeps_reserve (h : Sound budget rows) (hexisting : existingRow rows upload = some row)
    (hcharge : row.storedBytes = upload.storedBytes) (leaseExpiresAt : Int) :
    Keeps upload.contentId rows fun row => if row.isFor upload then upload.row leaseExpiresAt else row := by
  have honly := h.only hexisting
  refine ⟨fun other _ => ?_, fun other _ => ?_, fun other hother => ?_, fun other _ hstate => ?_,
    fun other _ hcontent => ?_⟩
  · split
    case isTrue hfor => exact (isFor_iff.1 hfor).1.symm
    case isFalse => rfl
  · split
    case isTrue hfor => exact (isFor_iff.1 hfor).2.symm
    case isFalse => rfl
  · split
    case isTrue hfor =>
      obtain rfl := honly other hother hfor
      exact hcharge.symm
    case isFalse => rfl
  · split
    · simp [Upload.row]
    · exact hstate
  · rw [if_neg]
    intro hfor
    exact hcontent (isFor_iff.1 hfor).2

/-! ## Stages -/

/-- The task holds the locks of an upload's content and account. -/
structure Locked (db : Db P C) (task : Nat) (upload : Upload P C) : Prop where
  content : db.installLock upload.contentId = some task
  account : db.quotaLock upload.principalId = some task

/-- What the check of a reservation finds of the existing row. -/
structure Renewable (rows : List (LedgerRow P C)) (upload : Upload P C) (existing : Option (LedgerRow P C)) :
    Prop where
  current : existingRow rows upload = existing
  charge : ∀ row ∈ existing, row.storedBytes = upload.storedBytes
  unready : ∀ row ∈ existing, row.state ≠ .ready

/-- What a task at a stage can rely on. -/
def StageOk (budget : MediaBudget) (db : Db P C) (task : Nat) : Stage P C → Prop
  | .contentLocked upload => db.installLock upload.contentId = some task
  | .locked upload => Locked db task upload
  | .checked upload _ existing => Locked db task upload ∧ Renewable db.rows upload existing
  | .admitted upload _ existing => Locked db task upload ∧ Renewable db.rows upload existing ∧
      usedBytes db.rows upload + upload.storedBytes ≤ budget.accountQuotaBytes
  | .uploaded upload => db.installed upload.contentId = true
  | .completeLocked upload => db.installLock upload.contentId = some task ∧ db.installed upload.contentId = true
  | .completing upload => Locked db task upload ∧ db.installed upload.contentId = true
  | .claiming contentId => db.installLock contentId = some task
  | .claimed contentId .. => db.installLock contentId = some task
  | .found contentId _ => db.installed contentId = true
  | .finishing contentId _ => db.installLock contentId = some task ∧ db.installed contentId = true
  | .idle | .uploading .. | .probing .. | .done => True

/-- What a step leaves to a task. -/
structure Leaves (db db' : Db P C) (other : Nat) : Prop where
  install : ∀ contentId, db.installLock contentId = some other → db'.installLock contentId = some other
  quota : ∀ principalId, db.quotaLock principalId = some other → db'.quotaLock principalId = some other
  installed : ∀ contentId, db.installed contentId = true → db'.installed contentId = true
  existing : ∀ upload, db.installLock upload.contentId = some other →
    existingRow db'.rows upload = existingRow db.rows upload
  used : ∀ upload, Locked db other upload → usedBytes db'.rows upload = usedBytes db.rows upload

theorem Leaves.refl (db : Db P C) (other : Nat) : Leaves db db other :=
  ⟨fun _ h => h, fun _ h => h, fun _ h => h, fun _ _ => rfl, fun _ _ => rfl⟩

theorem Leaves.trans {a b c : Db P C} {other : Nat} (h : Leaves a b other) (h' : Leaves b c other) :
    Leaves a c other where
  install contentId hlock := h'.install contentId (h.install contentId hlock)
  quota principalId hlock := h'.quota principalId (h.quota principalId hlock)
  installed contentId hinstalled := h'.installed contentId (h.installed contentId hinstalled)
  existing upload hlock := (h'.existing upload (h.install _ hlock)).trans (h.existing upload hlock)
  used upload hlocked :=
    (h'.used upload ⟨h.install _ hlocked.content, h.quota _ hlocked.account⟩).trans (h.used upload hlocked)

section Stages

variable {db db' : Db P C} {task other : Nat}

theorem Locked.leaves (h : Locked db other upload) (hleaves : Leaves db db' other) : Locked db' other upload :=
  ⟨hleaves.install _ h.content, hleaves.quota _ h.account⟩

theorem Renewable.leaves {existing : Option (LedgerRow P C)} (h : Renewable db.rows upload existing)
    (hlocked : Locked db other upload) (hleaves : Leaves db db' other) : Renewable db'.rows upload existing :=
  ⟨(hleaves.existing upload hlocked.content).trans h.current, h.charge, h.unready⟩

theorem StageOk.leaves {stage : Stage P C} (hleaves : Leaves db db' other) (h : StageOk budget db other stage) :
    StageOk budget db' other stage := by
  cases stage with
  | contentLocked upload => exact hleaves.install _ h
  | locked upload => exact Locked.leaves h hleaves
  | checked upload now existing => exact ⟨h.1.leaves hleaves, h.2.leaves h.1 hleaves⟩
  | admitted upload now existing =>
    refine ⟨h.1.leaves hleaves, h.2.1.leaves h.1 hleaves, ?_⟩
    rw [hleaves.used upload h.1]
    exact h.2.2
  | uploaded upload => exact hleaves.installed _ h
  | completeLocked upload
  | finishing contentId leaseToken => exact ⟨hleaves.install _ h.1, hleaves.installed _ h.2⟩
  | completing upload => exact ⟨h.1.leaves hleaves, hleaves.installed _ h.2⟩
  | claiming contentId => exact hleaves.install _ h
  | claimed contentId leaseToken now hasInstalling => exact hleaves.install _ h
  | found contentId leaseToken => exact hleaves.installed _ h
  | idle => trivial
  | uploading upload installLease => trivial
  | probing contentId leaseToken => trivial
  | done => trivial

omit [DecidableEq P] [DecidableEq C] in
theorem Db.stages_goto (db : Db P C) (task : Nat) (stage : Stage P C) : (db.goto task stage).stages task = stage :=
  update_self ..

theorem leaves_goto (stage : Stage P C) : Leaves db (db.goto task stage) other :=
  ⟨fun _ h => h, fun _ h => h, fun _ h => h, fun _ _ => rfl, fun _ _ => rfl⟩

theorem leaves_newId : Leaves db db.newId other :=
  ⟨fun _ h => h, fun _ h => h, fun _ h => h, fun _ _ => rfl, fun _ _ => rfl⟩

theorem lock_kept {K : Type} [DecidableEq K] {locks : K → Option Nat} {key held : K} (free : locks key = none)
    (h : locks held = some other) : update locks key (some task) held = some other := by
  rw [update_of_ne]
  · exact h
  · rintro rfl
    rw [free] at h
    exact Option.some_ne_none _ h.symm

theorem release_kept {K : Type} {locks : K → Option Nat} {held : K} (hne : other ≠ task)
    (h : locks held = some other) : (if locks held = some task then none else locks held) = some other := by
  rw [if_neg]
  · exact h
  · rw [h]
    exact fun hsame => hne (Option.some.inj hsame)

theorem leaves_lockInstall {contentId : C} (free : db.installLock contentId = none) :
    Leaves db (db.lockInstall task contentId) other where
  install _ h := lock_kept free h
  quota _ h := h
  installed _ h := h
  existing _ _ := rfl
  used _ _ := rfl

theorem leaves_lockQuota {principalId : P} (free : db.quotaLock principalId = none) :
    Leaves db (db.lockQuota task principalId) other where
  install _ h := h
  quota _ h := lock_kept free h
  installed _ h := h
  existing _ _ := rfl
  used _ _ := rfl

/-- The end of a transaction leaves the others their locks. -/
theorem leaves_finish (hne : other ≠ task) {rows : List (LedgerRow P C)}
    (hexisting : ∀ upload, db.installLock upload.contentId = some other →
      existingRow rows upload = existingRow db.rows upload)
    (hused : ∀ upload, Locked db other upload → usedBytes rows upload = usedBytes db.rows upload) :
    Leaves db (db.finish task rows) other where
  install _ h := release_kept hne h
  quota _ h := release_kept hne h
  installed _ h := h
  existing := hexisting
  used := hused

theorem leaves_write (hne : other ≠ task) {contentId : C} {change : LedgerRow P C → LedgerRow P C}
    (hlock : db.installLock contentId = some task) (hsound : Sound budget db.rows)
    (hkeeps : Keeps contentId db.rows change) : Leaves db (db.finish task (db.rows.map change)) other := by
  refine leaves_finish hne (fun upload hother => ?_) fun upload _ => usedBytes_map hkeeps hsound.unfailed upload
  refine existingRow_map hkeeps ?_
  rintro rfl
  rw [hlock] at hother
  exact hne (Option.some.inj hother).symm

/-- A new row, by the holder of the locks of its content and account. -/
theorem leaves_insert (hne : other ≠ task) (hlocked : Locked db task upload) (leaseExpiresAt : Int) :
    Leaves db (db.finish task (db.rows ++ [upload.row leaseExpiresAt])) other := by
  refine leaves_finish hne (fun upload' hother => existingRow_append ?_) fun upload' hother => ?_
  · rw [Bool.eq_false_iff]
    intro hfor
    have hcontent := (isFor_iff.1 hfor).2
    rw [← hcontent] at hother
    exact hne (Option.some.inj (hother.symm.trans hlocked.content))
  · rw [usedBytes_eq, chargesOf_append, if_neg, Nat.add_zero, ← usedBytes_eq]
    intro hchosen
    simp only [Bool.and_eq_true, decide_eq_true_iff] at hchosen
    have haccount := hother.account
    rw [← hchosen.1.1] at haccount
    exact hne (Option.some.inj (haccount.symm.trans hlocked.account))

end Stages

/-! ## What a step does to the rows -/

/-- The row is the one that the step's token is of. -/
def Act.Holds (act : Act P C) (row : LedgerRow P C) : Prop :=
  match act with
  | .other => False
  | .complete upload => row.isFor upload = true ∧ row.uploadId = upload.uploadId ∧
      row.leaseToken = some upload.uploadId ∧ row.state = .installing
  | .finish contentId leaseToken => row.contentId = contentId ∧ row.leaseToken = some leaseToken ∧
      row.state = .reclaiming

/-- The row goes on as another, with its charge. -/
structure LedgerRow.GoesOn (row row' : LedgerRow P C) : Prop where
  principal : row'.principalId = row.principalId
  content : row'.contentId = row.contentId
  charge : row'.storedBytes = row.storedBytes
  ready : row.state = .ready → row'.state = .ready

/-- What a step may do to the rows. -/
structure Evolves (act : Act P C) (db : Db P C) (rows' : List (LedgerRow P C)) : Prop where
  kept : ∀ row ∈ db.rows, ∃ row' ∈ rows', row.GoesOn row'
  readied : ∀ row' ∈ rows', row'.state = .ready → row' ∈ db.rows ∨
    ∃ row ∈ db.rows, act.Holds row ∧ db.installed row.contentId = true ∧ row' = row.readied
  unheld : act ≠ .other → ∀ row ∈ db.rows, ¬ act.Holds row → row ∈ rows'

section Evolution

variable {db db' : Db P C} {act : Act P C} {task other : Nat}

theorem evolves_refl (act : Act P C) (db : Db P C) : Evolves act db db.rows :=
  ⟨fun row hrow => ⟨row, hrow, rfl, rfl, rfl, fun h => h⟩, fun _ hrow _ => .inl hrow, fun _ _ hrow _ => hrow⟩

theorem evolves_map {contentId : C} {change : LedgerRow P C → LedgerRow P C}
    (hkeeps : Keeps contentId db.rows change)
    (hready : ∀ row ∈ db.rows, row.state = .ready → change row = row)
    (hreadied : ∀ row ∈ db.rows, (change row).state = .ready → change row = row ∨
      act.Holds row ∧ db.installed row.contentId = true ∧ change row = row.readied)
    (hunheld : act ≠ .other → ∀ row ∈ db.rows, ¬ act.Holds row → change row = row) :
    Evolves act db (db.rows.map change) where
  kept row hrow := by
    refine ⟨change row, List.mem_map_of_mem hrow, hkeeps.principal row hrow, hkeeps.content row hrow,
      hkeeps.charge row hrow, fun hstate => ?_⟩
    rw [hready row hrow hstate]
    exact hstate
  readied row' hrow' hstate := by
    obtain ⟨row, hrow, rfl⟩ := List.mem_map.1 hrow'
    rcases hreadied row hrow hstate with hsame | hheld
    · rw [hsame]
      exact .inl hrow
    · exact .inr ⟨row, hrow, hheld⟩
  unheld hact row hrow hheld := by
    rw [← hunheld hact row hrow hheld]
    exact List.mem_map_of_mem hrow

variable {existing : Option (LedgerRow P C)}

theorem evolves_reserve (hsound : Sound budget db.rows)
    (hrenewable : Renewable db.rows upload existing) (leaseExpiresAt : Int) :
    Evolves .other db (reserveRow db.rows upload existing leaseExpiresAt) := by
  cases existing with
  | none =>
    refine ⟨fun row hrow => ⟨row, List.mem_append_left _ hrow, rfl, rfl, rfl, fun h => h⟩,
      fun row' hrow' hstate => ?_, fun hact => absurd rfl hact⟩
    rcases List.mem_append.1 hrow' with hold | hnew
    · exact .inl hold
    · obtain rfl := List.mem_singleton.1 hnew
      simp [Upload.row] at hstate
  | some row =>
    have honly := hsound.only hrenewable.current
    refine evolves_map (keeps_reserve hsound hrenewable.current (hrenewable.charge row rfl) leaseExpiresAt)
      (fun other hother hstate => ?_) (fun other _ hstate => ?_) fun hact => absurd rfl hact
    · rw [if_neg]
      intro hfor
      obtain rfl := honly other hother hfor
      exact hrenewable.unready other rfl hstate
    · by_cases hfor : other.isFor upload = true
      · rw [if_pos hfor] at hstate
        simp [Upload.row] at hstate
      · rw [if_neg hfor]
        exact .inl rfl

theorem evolves_complete (hinstalled : db.installed upload.contentId = true) :
    Evolves (.complete upload) db (completeRow db.rows upload) := by
  refine evolves_map (keeps_complete db.rows upload) (fun row _ hstate => ?_) (fun row _ _ => ?_)
    fun _ row _ hheld => ?_
  · rw [if_neg]
    simp [hstate]
  · split
    case isTrue hchosen =>
      simp only [Bool.and_eq_true, beq_iff_eq] at hchosen
      obtain ⟨⟨⟨hfor, hid⟩, htoken⟩, hstate⟩ := hchosen
      refine .inr ⟨⟨hfor, hid, htoken, hstate⟩, ?_, rfl⟩
      rw [(isFor_iff.1 hfor).2]
      exact hinstalled
    case isFalse => exact .inl rfl
  · rw [if_neg]
    intro hchosen
    simp only [Bool.and_eq_true, beq_iff_eq] at hchosen
    exact hheld ⟨hchosen.1.1.1, hchosen.1.1.2, hchosen.1.2, hchosen.2⟩

theorem evolves_reclaim (db : Db P C) (contentId : C) (leaseToken : Nat) (leaseExpiresAt : Int) :
    Evolves .other db (reclaimRows db.rows contentId leaseToken leaseExpiresAt) := by
  refine evolves_map (keeps_reclaim db.rows contentId leaseToken leaseExpiresAt) (fun row _ hstate => ?_)
    (fun row _ hstate => ?_) fun hact => absurd rfl hact
  · rw [if_neg]
    simp [hstate]
  · by_cases hchosen : (decide (row.contentId = contentId) &&
        (row.state == .installing || row.state == .reclaiming)) = true
    · rw [if_pos hchosen] at hstate
      cases hstate
    · rw [if_neg hchosen]
      exact .inl rfl

theorem evolves_finish {contentId : C} (leaseToken : Nat) (hinstalled : db.installed contentId = true) :
    Evolves (.finish contentId leaseToken) db (finishRows db.rows contentId leaseToken) := by
  refine evolves_map (keeps_finish db.rows contentId leaseToken) (fun row _ hstate => ?_) (fun row _ _ => ?_)
    fun _ row _ hheld => ?_
  · rw [if_neg]
    simp [hstate]
  · split
    case isTrue hchosen =>
      simp only [Bool.and_eq_true, beq_iff_eq, decide_eq_true_iff] at hchosen
      obtain ⟨⟨hcontent, hstate⟩, htoken⟩ := hchosen
      refine .inr ⟨⟨hcontent, htoken, hstate⟩, ?_, rfl⟩
      rw [hcontent]
      exact hinstalled
    case isFalse => exact .inl rfl
  · rw [if_neg]
    intro hchosen
    simp only [Bool.and_eq_true, beq_iff_eq, decide_eq_true_iff] at hchosen
    exact hheld ⟨hchosen.1.1, hchosen.2, hchosen.1.2⟩

/-! ## Runs -/

/-- What every step keeps. -/
structure Kept (budget : MediaBudget) (db : Db P C) : Prop where
  sound : Sound budget db.rows
  stages : ∀ task, StageOk budget db task (db.stages task)

theorem Kept.at (h : Kept budget db) {stage : Stage P C} (hstage : db.stages task = stage) :
    StageOk budget db task stage :=
  hstage ▸ h.stages task

/-- One task goes on, and the others keep what they rely on. -/
theorem Kept.goto (h : Kept budget db) {stage : Stage P C} (hstages : db'.stages = db.stages)
    (hsound : Sound budget db'.rows) (hleaves : ∀ other, other ≠ task → Leaves db db' other)
    (hown : StageOk budget db' task stage) : Kept budget (db'.goto task stage) := by
  refine ⟨hsound, fun other => ?_⟩
  by_cases hother : other = task
  · subst hother
    rw [Db.stages_goto]
    exact hown.leaves (leaves_goto stage)
  · have hstage : (db'.goto task stage).stages other = db.stages other := by
      rw [← hstages]
      exact update_of_ne hother ..
    rw [hstage]
    exact (h.stages other).leaves ((hleaves other hother).trans (leaves_goto stage))

theorem leaves_install (db : Db P C) (contentId : C) (other : Nat) :
    Leaves db { db with installed := update db.installed contentId true } other where
  install _ h := h
  quota _ h := h
  installed held h := by
    by_cases hsame : held = contentId
    · subst hsame
      exact update_self ..
    · exact (update_of_ne hsame ..).trans h
  existing _ _ := rfl
  used _ _ := rfl

theorem Sound.reserve (h : Sound budget rows) (hrenewable : Renewable rows upload existing)
    (hwithin : usedBytes rows upload + upload.storedBytes ≤ budget.accountQuotaBytes)
    (leaseExpiresAt : Int) :
    Sound budget (reserveRow rows upload existing leaseExpiresAt) := by
  cases existing with
  | none => exact h.insert hrenewable.current hwithin leaseExpiresAt
  | some row => exact h.map (keeps_reserve h hrenewable.current (hrenewable.charge row rfl) leaseExpiresAt)

theorem leaves_reserve (hne : other ≠ task) (hsound : Sound budget db.rows)
    (hlocked : Locked db task upload) (hrenewable : Renewable db.rows upload existing)
    (leaseExpiresAt : Int) :
    Leaves db (db.finish task (reserveRow db.rows upload existing leaseExpiresAt)) other := by
  cases existing with
  | none => exact leaves_insert hne hlocked leaseExpiresAt
  | some row =>
    exact leaves_write hne hlocked.content hsound
      (keeps_reserve hsound hrenewable.current (hrenewable.charge row rfl) leaseExpiresAt)

theorem within_of_saturatingAdd {a b : Nat} (h : saturatingAdd a b ≤ budget.accountQuotaBytes) :
    a + b ≤ budget.accountQuotaBytes := by
  have hbound := budget.quota_bounded.2
  unfold saturatingAdd at h
  omega

theorem locked_self {K : Type} [DecidableEq K] (locks : K → Option Nat) (key : K) :
    update locks key (some task) key = some task :=
  update_self ..

/-- A step keeps what the tasks rely on. -/
theorem Step.kept (hstep : Step budget db act db') (h : Kept budget db) : Kept budget db' := by
  have hsame : ∀ {task other : Nat}, other ≠ task → Leaves db (db.finish task db.rows) other := fun hother =>
    leaves_finish hother (fun _ _ => rfl) fun _ _ => rfl
  cases hstep with
  | reserve idle principalId contentId storedBytes free =>
    exact h.goto rfl h.sound (fun other _ => leaves_newId.trans (leaves_lockInstall free)) (locked_self ..)
  | lockQuota stage free =>
    exact h.goto rfl h.sound (fun other _ => leaves_lockQuota free) ⟨h.at stage, locked_self ..⟩
  | check now stage renewable =>
    exact h.goto rfl h.sound (fun other _ => Leaves.refl db other) ⟨h.at stage, rfl,
      fun row hrow => (renewable row hrow).1, fun row hrow => (renewable row hrow).2.1⟩
  | alreadyReady stage existing same ready
  | stop => exact h.goto rfl h.sound (fun other hother => hsame hother) trivial
  | admitted stage within =>
    obtain ⟨hlocked, hrenewable⟩ := h.at stage
    exact h.goto rfl h.sound (fun other _ => Leaves.refl db other)
      ⟨hlocked, hrenewable, within_of_saturatingAdd within⟩
  | commitReservation stage =>
    obtain ⟨hlocked, hrenewable, hwithin⟩ := h.at stage
    exact h.goto rfl (h.sound.reserve hrenewable hwithin _)
      (fun other hother => leaves_reserve hother h.sound hlocked hrenewable _) trivial
  | install contentId =>
    exact ⟨h.sound, fun other => (h.stages other).leaves (leaves_install db contentId other)⟩
  | upload stage committed =>
    rename_i installLease
    refine h.goto rfl h.sound (fun other _ => Leaves.refl db other) ?_
    cases installLease with
    | false => trivial
    | true => exact committed
  | beginCompletion stage free =>
    exact h.goto rfl h.sound (fun other _ => leaves_lockInstall free) ⟨locked_self .., h.at stage⟩
  | lockCompletion stage free =>
    obtain ⟨hlock, hinstalled⟩ := h.at stage
    exact h.goto rfl h.sound (fun other _ => leaves_lockQuota free) ⟨⟨hlock, locked_self ..⟩, hinstalled⟩
  | complete stage =>
    obtain ⟨hlocked, hinstalled⟩ := h.at stage
    exact h.goto rfl (h.sound.map (keeps_complete _ _))
      (fun other hother => leaves_write hother hlocked.content h.sound (keeps_complete _ _)) trivial
  | beginClaim idle contentId free =>
    exact h.goto rfl h.sound (fun other _ => leaves_lockInstall free) (locked_self ..)
  | claim now stage expired waits => exact h.goto rfl h.sound (fun other _ => leaves_newId) (h.at stage)
  | commitClaim stage =>
    have hlock := h.at stage
    rename_i hasInstalling
    refine h.goto rfl (h.sound.map (keeps_reclaim _ _ _ _))
      (fun other hother => leaves_write hother hlock h.sound (keeps_reclaim _ _ _ _)) ?_
    cases hasInstalling <;> trivial
  | probe stage manifest => exact h.goto rfl h.sound (fun other _ => Leaves.refl db other) manifest
  | beginFinish stage free =>
    exact h.goto rfl h.sound (fun other _ => leaves_lockInstall free) ⟨locked_self .., h.at stage⟩
  | finish stage =>
    obtain ⟨hlock, hinstalled⟩ := h.at stage
    exact h.goto rfl (h.sound.map (keeps_finish _ _ _))
      (fun other hother => leaves_write hother hlock h.sound (keeps_finish _ _ _)) trivial

/-- What a step does to the rows. -/
theorem Step.evolves (hstep : Step budget db act db') (h : Kept budget db) : Evolves act db db'.rows := by
  cases hstep with
  | commitReservation stage =>
    obtain ⟨_, hrenewable, _⟩ := h.at stage
    exact evolves_reserve h.sound hrenewable _
  | complete stage => exact evolves_complete (h.at stage).2
  | commitClaim stage => exact evolves_reclaim ..
  | finish stage => exact evolves_finish _ (h.at stage).2
  | _ => exact evolves_refl _ _

end Evolution

/-! ## Runs -/

variable (budget) in
/-- Steps, one after another. -/
def Run : Db P C → Db P C → Prop := ReflTransGen fun db db' => ∃ act, Step budget db act db'

theorem kept_initial : Kept budget ({} : Db P C) :=
  ⟨⟨List.Pairwise.nil, fun _ => Nat.zero_le _, fun _ hrow => absurd hrow List.not_mem_nil⟩, fun _ => trivial⟩

theorem Kept.run {db db' : Db P C} (h : Kept budget db) (hrun : Run budget db db') : Kept budget db' := by
  induction hrun with
  | refl => exact h
  | tail _ hstep ih =>
    obtain ⟨act, hact⟩ := hstep
    exact hact.kept ih

omit [DecidableEq P] [DecidableEq C] in
theorem LedgerRow.GoesOn.refl (row : LedgerRow P C) : row.GoesOn row := ⟨rfl, rfl, rfl, fun h => h⟩

omit [DecidableEq P] [DecidableEq C] in
theorem LedgerRow.GoesOn.trans {a b c : LedgerRow P C} (h : a.GoesOn b) (h' : b.GoesOn c) : a.GoesOn c :=
  ⟨h'.principal.trans h.principal, h'.content.trans h.content, h'.charge.trans h.charge,
    fun hready => h'.ready (h.ready hready)⟩

/-- A row goes on through every run. -/
theorem Kept.goesOn {db db' : Db P C} (h : Kept budget db) (hrun : Run budget db db') :
    ∀ row ∈ db.rows, ∃ row' ∈ db'.rows, row.GoesOn row' := by
  induction hrun with
  | refl => exact fun row hrow => ⟨row, hrow, .refl row⟩
  | tail hbefore hstep ih =>
    intro row hrow
    obtain ⟨middle, hmiddle, hgoes⟩ := ih row hrow
    obtain ⟨act, hact⟩ := hstep
    obtain ⟨row', hrow', hgoes'⟩ := (hact.evolves (h.run hbefore)).kept middle hmiddle
    exact ⟨row', hrow', hgoes.trans hgoes'⟩

/-- What holds of the charges, now and later. -/
structure Lawful (budget : MediaBudget) (db : Db P C) : Prop where
  /-- An account has at most one row for a content. -/
  single : db.rows.Pairwise fun a b => ¬ (a.principalId = b.principalId ∧ a.contentId = b.contentId)
  /-- No account is charged more than its quota. -/
  within : ∀ principalId, accountBytes principalId db.rows ≤ budget.accountQuotaBytes
  /-- A charge is never given up. -/
  unfailed : ∀ row ∈ db.rows, row.state ≠ .failed
  /-- A row goes on with its charge, and stays ready. -/
  goesOn : ∀ db', Run budget db db' → ∀ row ∈ db.rows, ∃ row' ∈ db'.rows, row.GoesOn row'
  /-- A row becomes ready only by its current token, with its manifest installed. -/
  readied : ∀ act db', Step budget db act db' → ∀ row' ∈ db'.rows, row'.state = .ready → row' ∈ db.rows ∨
    ∃ row ∈ db.rows, act.Holds row ∧ db.installed row.contentId = true ∧ row' = row.readied
  /-- A completion or a recovery by another token leaves a row as it is. -/
  unheld : ∀ act db', Step budget db act db' → act ≠ .other →
    ∀ row ∈ db.rows, ¬ act.Holds row → row ∈ db'.rows

/-- **The charges of uploads are lawful, in every run.** -/
theorem quota_lawful {db : Db P C} (hrun : Run budget {} db) : Lawful budget db := by
  have hkept := kept_initial.run hrun
  refine ⟨hkept.sound.single, hkept.sound.within, hkept.sound.unfailed, fun db' hlater => hkept.goesOn hlater,
    fun act db' hstep => ?_, fun act db' hstep => ?_⟩
  · exact (hstep.evolves hkept).readied
  · exact (hstep.evolves hkept).unheld

/-- The budget of a server whose environment says nothing of it. -/
def defaultBudget : MediaBudget where
  accountQuotaBytes := 256 * 1024 * 1024
  uploadLeaseSeconds := 15 * 60
  quota_bounded := by decide
  lease_bounded := by decide

/-- An upload that is reserved, put and completed. -/
theorem upload_lawful : ∃ db : Db Nat Nat, Run defaultBudget {} db ∧
    db.rows = [(Upload.row ⟨7, 100, 4096, 0⟩ 900).readied] ∧ Lawful defaultBudget db := by
  let upload : Upload Nat Nat := ⟨7, 100, 4096, 0⟩
  have hreserve : Run defaultBudget {} _ := .single ⟨_, @Step.reserve Nat Nat _ _ _ {} 0 rfl 7 100 4096 rfl⟩
  have hlock := hreserve.tail ⟨_, @Step.lockQuota _ _ _ _ _ _ 0 upload rfl rfl⟩
  have hcheck := hlock.tail ⟨_, @Step.check _ _ _ _ _ _ 0 upload 0 rfl fun _ h => nomatch h⟩
  have hadmitted := hcheck.tail ⟨_, @Step.admitted _ _ _ _ _ _ 0 upload 0 none rfl (by decide)⟩
  have hcommit := hadmitted.tail ⟨_, @Step.commitReservation _ _ _ _ _ _ 0 upload 0 none rfl⟩
  have hinstall := hcommit.tail ⟨_, .install 100⟩
  have hupload := hinstall.tail ⟨_, @Step.upload _ _ _ _ _ _ 0 upload true rfl rfl⟩
  have hbegin := hupload.tail ⟨_, @Step.beginCompletion _ _ _ _ _ _ 0 upload rfl rfl⟩
  have hlock' := hbegin.tail ⟨_, @Step.lockCompletion _ _ _ _ _ _ 0 upload rfl rfl⟩
  have hcomplete := hlock'.tail ⟨_, @Step.complete _ _ _ _ _ _ 0 upload rfl⟩
  exact ⟨_, hcomplete, rfl, quota_lawful hcomplete⟩

end Laws

end Ledger

end Fmarch.Api.MediaQuota
