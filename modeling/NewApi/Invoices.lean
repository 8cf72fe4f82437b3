import Mathlib.Data.Rat.Floor
import Mathlib.Data.List.Perm.Subperm
import NewApi.GoText
import NewApi.KeyedTable
import NewApi.StagedReads

/-! Invoices and the top-ups they cover. The flag is on the top-up, the status on
the invoice. Creating reads the top-ups twice before it commits, and the actions
on an invoice save a whole row that they read before; what is proved is exactly
which interleavings keep the flags, the statuses and the amounts together. Money
is in rational numbers. -/
namespace NewApi.Invoices
open NewApi.GuardedRun NewApi.KeyedTable
open NewApi.GoText (trimSpace hasPrefix trimPrefix)
open NewApi.StagedReads (Transaction idle Commits always_safe_iff_fitting_commits)

/-! ## Rows -/

inductive InvoiceStatus where
  | pending
  | issued
  | rejected
  | sent
  deriving DecidableEq, Repr

/-- `model/invoice.go::Invoice`. The column of the top-ups is the list that
`parseTopUpIds` reads from it. -/
structure Invoice where
  id : Int := 0
  userId : Int
  title : String := ""
  taxId : String := ""
  companyInfoURL : String := ""
  email : String := ""
  amount : Rat
  topUpIds : List Int
  status : InvoiceStatus := .pending
  fileUrl : String := ""
  remark : String := ""
  createTime : Int := 0
  updateTime : Int := 0
  deriving DecidableEq, Repr

/-- `model/topup.go::TopUp`, the columns that invoices look at; an `invoiced` that
is null counts as false. -/
structure TopUp where
  id : Int
  userId : Int
  money : Rat
  success : Bool := true
  invoiced : Bool := false
  deriving DecidableEq, Repr

structure Tables where
  topUps : List TopUp := []
  invoices : List Invoice := []
  lastInvoice : Int := 0
  deriving DecidableEq, Repr

def Tables.invoice (tables : Tables) (id : Int) : Option Invoice := lookup Invoice.id tables.invoices id

/-! ## Creating -/

/-- `controller/invoice.go::InvoiceRequest`, as it is bound. -/
structure InvoiceRequest where
  topUpIds : List Int
  title : String
  taxId : String
  companyInfoURL : String
  email : String
  deriving DecidableEq, Repr

/-- `controller/invoice.go::tianyanchaCompanyURLPattern`. -/
def isCompanyURL (url : String) : Bool :=
  let start := "https://www.tianyancha.com/company/"
  let rest := (trimPrefix url start).toList
  let digits := if rest.getLast? = some '/' then rest.dropLast else rest
  hasPrefix url start && digits ≠ [] && digits.all Char.isDigit

/-- The condition of `model/invoice.go::GetInvoiceableTopUps`, and of the count of
`Invoice.Insert`. -/
def isInvoiceable (userId : Int) (topUp : TopUp) : Bool :=
  topUp.userId = userId && topUp.success && !topUp.invoiced

def invoiceable (userId : Int) (ids : List Int) (tables : Tables) : List TopUp :=
  tables.topUps.filter fun topUp => isInvoiceable userId topUp && topUp.id ∈ ids

/-- `MinInvoiceAmount`. -/
def minInvoiceAmount : Rat := 50

/-- The checks of `controller/invoice.go::CreateInvoice`, after the amount. -/
def requestRefused (req : InvoiceRequest) : Option String :=
  if trimSpace req.title = "" then some "发票抬头不能为空"
  else if trimSpace req.taxId = "" then some "企业税号不能为空"
  else if trimSpace req.companyInfoURL = "" then some "天眼查企业信息地址不能为空"
  else if !isCompanyURL (trimSpace req.companyInfoURL) then
    some "企业信息地址格式错误，必须为 https://www.tianyancha.com/company/数字"
  else none

/-- What a transaction remembers: why it ended, an invoice to insert with the
top-ups that its amount sums, before and after these are counted, a row to save,
a row to save with its top-ups released, a top-up to complete. -/
inductive Memory where
  | refused (text : String)
  | drafted (invoice : Invoice) (summed : List Int)
  | counted (invoice : Invoice) (summed : List Int)
  | saving (invoice : Invoice)
  | rejecting (invoice : Invoice)
  | completing (topUpId : Int)
  deriving DecidableEq, Repr

/-- `controller/invoice.go::CreateInvoice` up to the insert. -/
def draftInvoice (userId : Int) (req : InvoiceRequest) (now : Int) (tables : Tables) : Memory :=
  let topUps := invoiceable userId req.topUpIds tables
  let totalMoney := (topUps.map TopUp.money).sum
  if totalMoney < minInvoiceAmount then .refused "开票金额不足 50 元"
  else match requestRefused req with
    | some text => .refused text
    | none => .drafted
      { userId := userId
        title := trimSpace req.title
        taxId := trimSpace req.taxId
        companyInfoURL := trimSpace req.companyInfoURL
        email := trimSpace req.email
        amount := totalMoney
        topUpIds := req.topUpIds
        createTime := now
        updateTime := now } (topUps.map TopUp.id)

/-- The count of `model/invoice.go::Invoice.Insert`. -/
def countTopUps (tables : Tables) : Memory → Memory
  | .drafted invoice summed =>
    if (invoiceable invoice.userId invoice.topUpIds tables).length = invoice.topUpIds.length then
      .counted invoice summed
    else .refused "存在无效或已开票的充值记录"
  | memory => memory

/-- `UPDATE top_ups SET invoiced` for the ids. -/
def markTopUps (ids : List Int) (invoiced : Bool) (tables : Tables) : Tables :=
  { tables with
    topUps := tables.topUps.map fun topUp =>
      if topUp.id ∈ ids then { topUp with invoiced := invoiced } else topUp }

/-- The writes of `model/invoice.go::Invoice.Insert`. -/
def insertInvoice (invoice : Invoice) (tables : Tables) : Tables :=
  let marked := markTopUps invoice.topUpIds true tables
  { marked with
    invoices := tables.invoices ++ [{ invoice with id := tables.lastInvoice + 1 }]
    lastInvoice := tables.lastInvoice + 1 }

/-! ## Actions on an invoice -/

/-- `model/invoice.go::Invoice.Update`: the whole row is saved. -/
def saveInvoice (invoice : Invoice) (tables : Tables) : Tables :=
  { tables with invoices := save Invoice.id tables.invoices invoice }

/-- `controller/invoice.go::AdminUpdateInvoiceRequest`; a status that the switch
does not know is `some none`. -/
structure AdminUpdateInvoiceRequest where
  title : String := ""
  taxId : String
  companyInfoURL : String
  email : String := ""
  status : Option (Option InvoiceStatus) := none
  fileUrl : String := ""
  remark : String := ""
  deriving DecidableEq, Repr

/-- `controller/invoice.go::UpdateInvoice` on the row that was read. -/
def updatedInvoice (req : AdminUpdateInvoiceRequest) (now : Int) (invoice : Invoice) : Memory :=
  if trimSpace req.taxId = "" then .refused "企业税号不能为空"
  else if trimSpace req.companyInfoURL = "" then .refused "天眼查企业信息地址不能为空"
  else if !isCompanyURL (trimSpace req.companyInfoURL) then
    .refused "企业信息地址格式错误，必须为 https://www.tianyancha.com/company/数字"
  else if req.status = some none then .refused "无效的发票状态"
  else
    let status := (req.status.bind id).getD invoice.status
    if status = .rejected ∧ trimSpace req.remark = "" then .refused "拒绝发票时必须填写拒绝原因"
    else .saving { invoice with
      title := if req.title ≠ "" then trimSpace req.title else invoice.title
      taxId := trimSpace req.taxId
      companyInfoURL := trimSpace req.companyInfoURL
      email := if req.email ≠ "" then trimSpace req.email else invoice.email
      status := status
      fileUrl := if req.fileUrl ≠ "" then trimSpace req.fileUrl else invoice.fileUrl
      remark := req.remark
      updateTime := now }

/-- `controller/invoice.go::IssueInvoice` on the row that was read. -/
def issuedInvoice (fileUrl remark : String) (now : Int) (invoice : Invoice) : Memory :=
  if invoice.status ≠ .pending then .refused "只能开具待处理的发票申请"
  else .saving { invoice with
    status := .issued
    fileUrl := trimSpace fileUrl
    remark := remark
    updateTime := now }

/-- `model/invoice.go::Invoice.Reject` on the row that was read. -/
def rejectedInvoice (remark : String) (now : Int) (invoice : Invoice) : Memory :=
  if invoice.status ≠ .pending then .refused "只能拒绝待开具的发票申请"
  else .rejecting { invoice with status := .rejected, remark := remark, updateTime := now }

def sentInvoice (email : String) (delivered : Bool) (now : Int) (invoice : Invoice) : Memory :=
  if !delivered then .refused "发送邮件失败"
  else .saving { invoice with status := .sent, email := email, updateTime := now }

/-- `controller/invoice.go::SendInvoiceEmailByUser` on the row that was read; the
email is the bound one of the user, who may not exist. -/
def sentByUser (userId : Int) (boundEmail : Option String) (delivered : Bool) (now : Int)
    (invoice : Invoice) : Memory :=
  if invoice.userId ≠ userId then .refused "无权操作此发票"
  else if invoice.status ≠ .issued then .refused "该发票当前不可发送或已发送过"
  else if trimSpace invoice.fileUrl = "" then .refused "发票文件尚未上传"
  else match boundEmail with
    | none => .refused "用户不存在"
    | some email =>
      if trimSpace email = "" then .refused "请先绑定邮箱后再发送发票"
      else sentInvoice (trimSpace email) delivered now invoice

/-- `controller/invoice.go::SendInvoiceEmail` on the row that was read. -/
def sentByAdmin (email : String) (delivered : Bool) (now : Int) (invoice : Invoice) : Memory :=
  if invoice.status ≠ .issued ∧ invoice.status ≠ .sent then .refused "发票尚未开具，无法发送"
  else if invoice.fileUrl = "" then .refused "发票文件尚未上传"
  else sentInvoice (if email ≠ "" then email else invoice.email) delivered now invoice

/-! ## Transactions -/

inductive Request where
  | create (userId : Int) (req : InvoiceRequest) (now : Int)
  | update_ (id : Int) (req : AdminUpdateInvoiceRequest) (now : Int)
  | issue (id : Int) (fileUrl remark : String) (now : Int)
  | reject (id : Int) (remark : String) (now : Int)
  | sendByUser (userId id : Int) (boundEmail : Option String) (delivered : Bool) (now : Int)
  | send (id : Int) (email : String) (delivered : Bool) (now : Int)
  | complete (topUpId : Int)
  deriving DecidableEq, Repr

def onInvoice (id : Int) (action : Invoice → Memory) (tables : Tables) : Memory :=
  match tables.invoice id with
  | none => .refused "发票不存在"
  | some invoice => action invoice

def firstRead : Request → Tables → Memory
  | .create userId req now => draftInvoice userId req now
  | .update_ id req now => onInvoice id (updatedInvoice req now)
  | .issue id fileUrl remark now => onInvoice id (issuedInvoice fileUrl remark now)
  | .reject id remark now => onInvoice id (rejectedInvoice remark now)
  | .sendByUser userId id boundEmail delivered now => onInvoice id (sentByUser userId boundEmail delivered now)
  | .send id email delivered now => onInvoice id (sentByAdmin email delivered now)
  | .complete topUpId => fun _ => .completing topUpId

def completedRow (topUp : TopUp) : TopUp := { topUp with success := true }

def commit : Memory → Tables → Option Tables
  | .refused _, _ => none
  | .drafted _ _, _ => none
  | .counted invoice _, tables => some (insertInvoice invoice tables)
  | .saving invoice, tables => some (saveInvoice invoice tables)
  | .rejecting invoice, tables => some (saveInvoice invoice (markTopUps invoice.topUpIds false tables))
  | .completing topUpId, tables => some { tables with
      topUps := update TopUp.id tables.topUps topUpId completedRow }

def transaction (request : Request) : Transaction Tables Memory where
  first := firstRead request
  next := fun memory tables => countTopUps tables memory
  write := commit

/-! ## Coverage -/

def covers (id : Int) (invoice : Invoice) : Bool := invoice.status ≠ .rejected && id ∈ invoice.topUpIds

def coverCount (tables : Tables) (id : Int) : Nat := tables.invoices.countP (covers id)

def moneyWhere (picks : Int → Bool) (tables : Tables) : Rat :=
  ((tables.topUps.filter fun topUp => picks topUp.id).map TopUp.money).sum

def listedMoney (ids : List Int) (tables : Tables) : Rat := moneyWhere (fun id => id ∈ ids) tables

/-- A successful top-up is flagged exactly where one invoice covers it, no two
cover one, and an amount is what its top-ups sum to. -/
structure Covered (tables : Tables) : Prop where
  flags : ∀ topUp ∈ tables.topUps, topUp.success = true →
    (topUp.invoiced = true ↔ coverCount tables topUp.id = 1)
  single : ∀ id, coverCount tables id ≤ 1
  amounts : ∀ invoice ∈ tables.invoices, invoice.amount = listedMoney invoice.topUpIds tables

def StillCurrent (memory : Memory) (tables : Tables) : Prop :=
  match memory with
  | .counted invoice summed =>
    (∀ topUp ∈ tables.topUps, topUp.id ∈ invoice.topUpIds → topUp.invoiced = false) ∧
      moneyWhere (fun id => id ∈ invoice.topUpIds && id ∉ summed) tables = 0
  | .saving copy => ∀ row, tables.invoice copy.id = some row →
    (copy.status = .rejected ↔ row.status = .rejected)
  | .rejecting copy => ∀ row, tables.invoice copy.id = some row → row.status = .rejected →
    ∀ topUp ∈ tables.topUps, topUp.id ∈ copy.topUpIds → topUp.invoiced = false
  | _ => True

/-! ## What every commit keeps -/

def Succeeded (tables : Tables) (id : Int) : Prop :=
  ∃ topUp ∈ tables.topUps, topUp.id = id ∧ topUp.success = true

structure Shaped (tables : Tables) : Prop where
  topUps : (tables.topUps.map TopUp.id).Nodup
  invoices : (tables.invoices.map Invoice.id).Nodup
  bounded : ∀ invoice ∈ tables.invoices, invoice.id ≤ tables.lastInvoice
  listed : ∀ invoice ∈ tables.invoices, invoice.topUpIds ≠ [] ∧ ∀ id ∈ invoice.topUpIds, Succeeded tables id
  unpaid : ∀ topUp ∈ tables.topUps, topUp.success = false → topUp.invoiced = false

def CopyOf (copy : Invoice) (tables : Tables) : Prop :=
  ∃ row, tables.invoice copy.id = some row ∧ copy.topUpIds = row.topUpIds ∧ copy.amount = row.amount

structure Drafted (invoice : Invoice) (summed : List Int) (tables : Tables) : Prop where
  status : invoice.status = .pending
  some_ : invoice.topUpIds ≠ []
  amount : invoice.amount = moneyWhere (fun id => id ∈ invoice.topUpIds && id ∈ summed) tables

def FitsTables (tables : Tables) (memory : Memory) : Prop :=
  match memory with
  | .drafted invoice summed => Drafted invoice summed tables
  | .counted invoice summed => Drafted invoice summed tables ∧
    ∀ id ∈ invoice.topUpIds, Succeeded tables id
  | .saving copy => CopyOf copy tables
  | .rejecting copy => CopyOf copy tables ∧ copy.status = .rejected
  | _ => True

structure Extends (before after : Tables) : Prop where
  money : after.topUps.map (fun topUp => (topUp.id, topUp.money)) =
    before.topUps.map fun topUp => (topUp.id, topUp.money)
  succeeded : ∀ id, Succeeded before id → Succeeded after id
  invoices : ∀ id row, before.invoice id = some row → ∃ saved, after.invoice id = some saved ∧
    saved.topUpIds = row.topUpIds ∧ saved.amount = row.amount

section Facts

theorem money_where_congr (picks : Int → Bool) (extends_ : Extends before after) :
    moneyWhere picks after = moneyWhere picks before := by
  have pairs : ∀ tables : Tables, moneyWhere picks tables =
      (((tables.topUps.map fun topUp => (topUp.id, topUp.money)).filter fun pair => picks pair.1).map
        Prod.snd).sum := by
    intro tables
    rw [List.filter_map, List.map_map]
    rfl
  rw [pairs, pairs, extends_.money]

theorem money_where_split (one other : Int → Bool) (tables : Tables) :
    moneyWhere one tables = moneyWhere (fun id => one id && other id) tables +
      moneyWhere (fun id => one id && !other id) tables := by
  unfold moneyWhere
  induction tables.topUps with
  | nil => simp
  | cons topUp rest ih =>
    cases first : one topUp.id <;> cases second : other topUp.id <;>
      simp only [List.filter_cons, first, second, Bool.and_true, Bool.and_false, Bool.not_true, Bool.not_false,
        Bool.false_eq_true, if_true, if_false, List.map_cons, List.sum_cons, ih] <;> ring

theorem fits_extends (extends_ : Extends before after) (fits : FitsTables before memory) :
    FitsTables after memory := by
  have drafted : ∀ invoice summed, Drafted invoice summed before → Drafted invoice summed after :=
    fun invoice summed held => ⟨held.status, held.some_, held.amount.trans (money_where_congr _ extends_).symm⟩
  have copied : ∀ copy, CopyOf copy before → CopyOf copy after := by
    rintro copy ⟨row, found, ids, amount⟩
    obtain ⟨saved, foundToo, sameIds, sameAmount⟩ := extends_.invoices copy.id row found
    exact ⟨saved, foundToo, ids.trans sameIds.symm, amount.trans sameAmount.symm⟩
  cases memory with
  | refused | completing => trivial
  | drafted invoice summed => exact drafted invoice summed fits
  | counted invoice summed =>
    exact ⟨drafted invoice summed fits.1, fun id member => extends_.succeeded id (fits.2 id member)⟩
  | saving copy => exact copied copy fits
  | rejecting copy => exact ⟨copied copy fits.1, fits.2⟩

theorem same_top_up (shaped : Shaped tables) (first : one ∈ tables.topUps)
    (second : other ∈ tables.topUps) (id : one.id = other.id) : one = other := by
  have found := lookup_of_mem shaped.topUps first
  rw [id, lookup_of_mem shaped.topUps second] at found
  exact (Option.some.inj found).symm

theorem succeeded_top_up (shaped : Shaped tables) (member : topUp ∈ tables.topUps)
    (succeeded : Succeeded tables topUp.id) : topUp.success = true := by
  obtain ⟨other, inside, id, success⟩ := succeeded
  rw [same_top_up shaped member inside id.symm]
  exact success

theorem counted_all (shaped : Shaped tables)
    (all : (invoiceable userId ids tables).length = ids.length) : ∀ id ∈ ids, Succeeded tables id := by
  let found := (invoiceable userId ids tables).map TopUp.id
  have once : found.Nodup := shaped.topUps.sublist (List.filter_sublist.map TopUp.id)
  have inside : found ⊆ ids := by
    intro id member
    obtain ⟨topUp, held, rfl⟩ := List.mem_map.mp member
    have kind := (List.mem_filter.mp held).2
    simp only [Bool.and_eq_true, decide_eq_true_eq] at kind
    exact kind.2
  have length : ids.length ≤ found.length := by
    rw [List.length_map, all]
  have same := (once.subperm inside).perm_of_length_le length
  intro id member
  obtain ⟨topUp, held, rfl⟩ := List.mem_map.mp (same.mem_iff.mpr member)
  obtain ⟨stored, kind⟩ := List.mem_filter.mp held
  simp only [isInvoiceable, Bool.and_eq_true] at kind
  exact ⟨topUp, stored, rfl, kind.1.1.2⟩

theorem draft_fits (shaped : Shaped tables) (userId : Int) (req : InvoiceRequest) (now : Int) :
    FitsTables tables (draftInvoice userId req now tables) := by
  unfold draftInvoice
  dsimp only
  split
  · trivial
  · rename_i enough
    split
    · trivial
    · let found := invoiceable userId req.topUpIds tables
      refine ⟨rfl, fun none_ => ?_, ?_⟩
      · have empty : found = [] := by
          simp only [found, invoiceable]
          rw [show req.topUpIds = [] from none_]
          simp
        apply enough
        rw [show invoiceable userId req.topUpIds tables = [] from empty]
        decide
      · unfold moneyWhere
        refine congrArg (fun rows => (rows.map TopUp.money).sum) (List.filter_congr fun topUp member => ?_)
        rw [Bool.eq_iff_iff]
        simp only [Bool.and_eq_true, decide_eq_true_eq]
        constructor
        · rintro ⟨kind, listed⟩
          refine ⟨listed, List.mem_map.mpr ⟨topUp, List.mem_filter.mpr ⟨member, ?_⟩, rfl⟩⟩
          simp [kind, listed]
        · rintro ⟨listed, again⟩
          obtain ⟨other, held, id⟩ := List.mem_map.mp again
          obtain ⟨stored, kind⟩ := List.mem_filter.mp held
          obtain rfl := same_top_up shaped stored member id
          simpa using kind

end Facts

/-! ## Commits -/

section Commits

theorem changed_extends (tables : Tables) (change : TopUp → TopUp)
    (keeps : ∀ topUp, (change topUp).id = topUp.id ∧ (change topUp).money = topUp.money)
    (succeeds : ∀ topUp, topUp.success = true → (change topUp).success = true) :
    Extends tables { tables with topUps := tables.topUps.map change } where
  money := by
    rw [List.map_map]
    refine List.map_congr_left fun topUp _ => ?_
    obtain ⟨id, money⟩ := keeps topUp
    rw [Function.comp_apply, id, money]
  succeeded := by
    rintro id ⟨topUp, member, same, success⟩
    exact ⟨_, List.mem_map_of_mem member, (keeps topUp).1.trans same, succeeds topUp success⟩
  invoices := fun _ row found => ⟨row, found, rfl, rfl⟩

theorem mark_extends (ids : List Int) (invoiced : Bool) (tables : Tables) :
    Extends tables (markTopUps ids invoiced tables) := by
  refine changed_extends tables _ (fun topUp => ?_) (fun topUp success => ?_)
  · split <;> exact ⟨rfl, rfl⟩
  · split <;> exact success

theorem mark_ids (ids : List Int) (invoiced : Bool) (tables : Tables) :
    (markTopUps ids invoiced tables).topUps.map TopUp.id = tables.topUps.map TopUp.id := by
  simp only [markTopUps, List.map_map]
  refine List.map_congr_left fun topUp _ => ?_
  simp only [Function.comp_apply]
  split <;> rfl

theorem mark_shaped (shaped : Shaped tables) {ids : List Int} (invoiced : Bool)
    (succeeded : invoiced = true → ∀ id ∈ ids, Succeeded tables id) :
    Shaped (markTopUps ids invoiced tables) := by
  refine ⟨?_, shaped.invoices, shaped.bounded, fun invoice member => ?_, fun topUp member unpaid => ?_⟩
  · rw [mark_ids]
    exact shaped.topUps
  · obtain ⟨some_, all⟩ := shaped.listed invoice member
    exact ⟨some_, fun id listed => (mark_extends ids invoiced tables).succeeded id (all id listed)⟩
  · obtain ⟨old, inside, rfl⟩ := List.mem_map.mp member
    split at unpaid
    · rename_i marked
      rw [if_pos marked]
      cases flag : invoiced with
      | false => rfl
      | true =>
        have success := succeeded_top_up shaped inside (succeeded flag old.id marked)
        rw [show old.success = false from unpaid] at success
        cases success
    · rename_i unmarked
      rw [if_neg unmarked]
      exact shaped.unpaid old inside unpaid

theorem save_extends {copy row : Invoice} (found : tables.invoice copy.id = some row)
    (ids : copy.topUpIds = row.topUpIds) (amount : copy.amount = row.amount) :
    Extends tables (saveInvoice copy tables) := by
  refine ⟨rfl, fun _ succeeded => succeeded, fun id old held => ?_⟩
  have looked : (saveInvoice copy tables).invoice id =
      if id = copy.id then (tables.invoice id).map fun _ => copy else tables.invoice id :=
    lookup_save tables.invoices copy id
  rw [looked, held]
  split
  · rename_i same
    subst same
    obtain rfl := Option.some.inj (held.symm.trans found)
    exact ⟨copy, rfl, ids, amount⟩
  · exact ⟨old, rfl, rfl, rfl⟩

theorem save_shaped (shaped : Shaped tables) {copy row : Invoice}
    (found : tables.invoice copy.id = some row) (ids : copy.topUpIds = row.topUpIds) :
    Shaped (saveInvoice copy tables) := by
  have id : row.id = copy.id := lookup_key found
  refine ⟨shaped.topUps, ?_, ?_, ?_, shaped.unpaid⟩
  · rw [saveInvoice, map_key_save]
    exact shaped.invoices
  · exact forall_save shaped.bounded (id ▸ shaped.bounded row (lookup_mem found))
  · exact forall_save shaped.listed (ids ▸ shaped.listed row (lookup_mem found))

theorem save_count (shaped : Shaped tables)
    (found : tables.invoice copy.id = some row) (id : Int) :
    coverCount (saveInvoice copy tables) id + (if covers id row then 1 else 0) =
      coverCount tables id + if covers id copy then 1 else 0 :=
  count_update shaped.invoices found (covers id) fun _ => copy

theorem insert_count (invoice : Invoice) (pending : invoice.status = .pending) (tables : Tables) (id : Int) :
    coverCount (insertInvoice invoice tables) id =
      coverCount tables id + if id ∈ invoice.topUpIds then 1 else 0 := by
  simp only [coverCount, insertInvoice, List.countP_append, List.countP_singleton, covers, pending]
  simp

theorem save_amounts (covered : Covered tables)
    (found : tables.invoice copy.id = some row) (ids : copy.topUpIds = row.topUpIds)
    (amount : copy.amount = row.amount) :
    ∀ invoice ∈ (saveInvoice copy tables).invoices, invoice.amount = listedMoney invoice.topUpIds tables := by
  refine forall_save covered.amounts ?_
  rw [amount, ids]
  exact covered.amounts row (lookup_mem found)

theorem save_covered_iff (shaped : Shaped tables) (covered : Covered tables)
    (fits : CopyOf copy tables) :
    Covered (saveInvoice copy tables) ↔ StillCurrent (.saving copy) tables := by
  obtain ⟨row, found, ids, amount⟩ := fits
  have guard : StillCurrent (.saving copy) tables ↔ (copy.status = .rejected ↔ row.status = .rejected) :=
    ⟨fun all => all row found, fun same other held => Option.some.inj (found.symm.trans held) ▸ same⟩
  rw [guard]
  constructor
  · intro after
    obtain ⟨some_, listed⟩ := shaped.listed row (lookup_mem found)
    obtain ⟨id, member⟩ := List.exists_mem_of_ne_nil _ some_
    obtain ⟨topUp, stored, rfl, success⟩ := listed id member
    -- the flag of a listed top-up is as it was, so its count is too
    have flag := covered.flags topUp stored success
    have flagAfter := after.flags topUp stored success
    have one := covered.single topUp.id
    have oneAfter := after.single topUp.id
    have count := save_count shaped found topUp.id
    have same : coverCount (saveInvoice copy tables) topUp.id = coverCount tables topUp.id := by
      have both : coverCount (saveInvoice copy tables) topUp.id = 1 ↔ coverCount tables topUp.id = 1 :=
        flagAfter.symm.trans flag
      omega
    have inCopy : topUp.id ∈ copy.topUpIds := ids ▸ member
    rw [same] at count
    simp only [covers, member, inCopy, decide_true, Bool.and_true, decide_eq_true_eq] at count
    by_cases first : copy.status = .rejected <;> by_cases second : row.status = .rejected <;>
      simp [first, second] at count ⊢
  · intro same
    have counts : ∀ id, coverCount (saveInvoice copy tables) id = coverCount tables id := by
      intro id
      have count := save_count shaped found id
      have kind : covers id copy = covers id row := by
        rw [covers, covers, ids]
        exact congrArg (· && _) (decide_eq_decide.mpr (not_congr same))
      rw [kind] at count
      omega
    refine ⟨fun topUp member success => ?_, fun id => ?_, save_amounts covered found ids amount⟩
    · rw [counts]
      exact covered.flags topUp member success
    · rw [counts]
      exact covered.single id

theorem reject_covered_iff (shaped : Shaped tables) (covered : Covered tables)
    (fits : CopyOf copy tables) (rejected : copy.status = .rejected) :
    Covered (saveInvoice copy (markTopUps copy.topUpIds false tables)) ↔
      StillCurrent (.rejecting copy) tables := by
  obtain ⟨row, found, ids, amount⟩ := fits
  have guard : StillCurrent (.rejecting copy) tables ↔ (row.status = .rejected →
      ∀ topUp ∈ tables.topUps, topUp.id ∈ copy.topUpIds → topUp.invoiced = false) :=
    ⟨fun all => all row found, fun free other held => Option.some.inj (found.symm.trans held) ▸ free⟩
  obtain ⟨-, listed⟩ := shaped.listed row (lookup_mem found)
  have counts : ∀ id, coverCount (saveInvoice copy (markTopUps copy.topUpIds false tables)) id +
      (if covers id row then 1 else 0) = coverCount tables id := by
    intro id
    have count := save_count shaped found id
    have none_ : covers id copy = false := by simp [covers, rejected]
    rw [none_] at count
    exact count
  have successful : ∀ topUp ∈ tables.topUps, topUp.id ∈ copy.topUpIds → topUp.success = true :=
    fun topUp member mine => succeeded_top_up shaped member (listed topUp.id (ids ▸ mine))
  rw [guard]
  constructor
  · intro after gone topUp member mine
    have success := successful topUp member mine
    have count := counts topUp.id
    have released : { topUp with invoiced := false } ∈
        (saveInvoice copy (markTopUps copy.topUpIds false tables)).topUps :=
      List.mem_map.mpr ⟨topUp, member, if_pos mine⟩
    have flagAfter := after.flags _ released success
    have apart : coverCount (saveInvoice copy (markTopUps copy.topUpIds false tables)) topUp.id ≠ 1 :=
      flagAfter.not.mp (by simp)
    have uncovered : covers topUp.id row = false := by simp [covers, gone]
    rw [uncovered] at count
    have flag := (covered.flags topUp member success).not.mpr fun one => apart (by simpa using count.trans one)
    simpa using flag
  · intro free
    have extends_ : Extends tables (markTopUps copy.topUpIds false tables) := mark_extends _ _ _
    refine ⟨fun topUp member success => ?_, fun id => ?_, fun invoice member => ?_⟩
    · obtain ⟨old, inside, rfl⟩ := List.mem_map.mp member
      by_cases mine : old.id ∈ copy.topUpIds
      · rw [if_pos mine] at success ⊢
        have count := counts old.id
        have one := covered.single old.id
        refine iff_of_false (by simp) ?_
        intro again
        by_cases gone : row.status = .rejected
        · have flag := (covered.flags old inside success).not.mp (by simp [free gone old inside mine])
          have uncovered : covers old.id row = false := by simp [covers, gone]
          rw [uncovered] at count
          exact flag (count.symm.trans (by simpa using again))
        · have covering : covers old.id row = true := by simp [covers, gone, ids ▸ mine]
          rw [covering, if_pos rfl] at count
          simp only at again
          omega
      · rw [if_neg mine] at success ⊢
        have count := counts old.id
        have uncovered : covers old.id row = false := by simp [covers, ← ids, mine]
        rw [uncovered] at count
        rw [show coverCount (saveInvoice copy (markTopUps copy.topUpIds false tables)) old.id =
          coverCount tables old.id by simpa using count]
        exact covered.flags old inside success
    · have count := counts id
      have one := covered.single id
      omega
    · rw [save_amounts covered found ids amount invoice member]
      exact (money_where_congr _ extends_).symm

theorem insert_covered_iff (shaped : Shaped tables) (covered : Covered tables)
    (drafted : Drafted invoice summed tables)
    (succeeded : ∀ id ∈ invoice.topUpIds, Succeeded tables id) :
    Covered (insertInvoice invoice tables) ↔ StillCurrent (.counted invoice summed) tables := by
  have extends_ : Extends tables (markTopUps invoice.topUpIds true tables) := mark_extends _ _ _
  have counts := insert_count invoice drafted.status tables
  have money : ∀ ids, listedMoney ids (insertInvoice invoice tables) = listedMoney ids tables := by
    intro ids
    have marked : listedMoney ids (insertInvoice invoice tables) =
        listedMoney ids (markTopUps invoice.topUpIds true tables) := rfl
    exact marked.trans (money_where_congr _ extends_)
  have whole : listedMoney invoice.topUpIds tables = invoice.amount +
      moneyWhere (fun id => id ∈ invoice.topUpIds && id ∉ summed) tables := by
    rw [drafted.amount]
    refine (money_where_split (fun id => id ∈ invoice.topUpIds) (fun id => id ∈ summed) tables).trans ?_
    simp only [decide_not]
  constructor
  · intro after
    refine ⟨fun topUp member mine => ?_, ?_⟩
    · have success := succeeded_top_up shaped member (succeeded topUp.id mine)
      have one := after.single topUp.id
      rw [counts, if_pos mine] at one
      have flag := (covered.flags topUp member success).not.mpr (by omega)
      simpa using flag
    · have amount := after.amounts { invoice with id := tables.lastInvoice + 1 }
        (List.mem_append_right _ (List.mem_singleton_self _))
      rw [money] at amount
      have total : invoice.amount = invoice.amount +
          moneyWhere (fun id => id ∈ invoice.topUpIds && id ∉ summed) tables := amount.trans whole
      linarith
  · rintro ⟨free, rest⟩
    have uncovered : ∀ id ∈ invoice.topUpIds, coverCount tables id = 0 := by
      intro id mine
      obtain ⟨topUp, member, rfl, success⟩ := succeeded id mine
      have flag := (covered.flags topUp member success).not.mp (by simp [free topUp member mine])
      have one := covered.single topUp.id
      omega
    refine ⟨fun topUp member success => ?_, fun id => ?_, fun other member => ?_⟩
    · obtain ⟨old, inside, rfl⟩ := List.mem_map.mp member
      by_cases mine : old.id ∈ invoice.topUpIds
      · rw [if_pos mine, counts]
        simp [mine, uncovered old.id mine]
      · rw [if_neg mine] at success ⊢
        rw [counts, if_neg mine, Nat.add_zero]
        exact covered.flags old inside success
    · rw [counts]
      split
      · rename_i mine
        rw [uncovered id mine]
      · exact covered.single id
    · rw [money]
      rcases List.mem_append.mp member with old | new
      · exact covered.amounts other old
      · rw [List.mem_singleton.mp new, whole, rest, add_zero]

theorem insert_shaped (shaped : Shaped tables) {invoice : Invoice} (some_ : invoice.topUpIds ≠ [])
    (succeeded : ∀ id ∈ invoice.topUpIds, Succeeded tables id) : Shaped (insertInvoice invoice tables) := by
  have marked := mark_shaped shaped true fun _ => succeeded
  have extends_ : Extends tables (markTopUps invoice.topUpIds true tables) := mark_extends _ _ _
  refine ⟨marked.topUps, ?_, fun other member => ?_, fun other member => ?_, marked.unpaid⟩
  · simp only [insertInvoice, List.map_append, List.map_cons, List.map_nil]
    refine List.nodup_append.mpr ⟨shaped.invoices, List.nodup_singleton _, ?_⟩
    rintro id before last after rfl
    obtain ⟨old, member, same⟩ := List.mem_map.mp before
    have bound := shaped.bounded old member
    have fresh := List.mem_singleton.mp after
    omega
  · simp only [insertInvoice]
    rcases List.mem_append.mp member with old | new
    · have := shaped.bounded other old
      omega
    · rw [List.mem_singleton.mp new]
  · rcases List.mem_append.mp member with old | new
    · obtain ⟨held, all⟩ := shaped.listed other old
      exact ⟨held, fun id mine => extends_.succeeded id (all id mine)⟩
    · rw [List.mem_singleton.mp new]
      exact ⟨some_, fun id mine => extends_.succeeded id (succeeded id mine)⟩

theorem covered_succeeded (shaped : Shaped tables) {id : Int} (one : coverCount tables id = 1) :
    Succeeded tables id := by
  have some_ : 0 < tables.invoices.countP (covers id) := by
    rw [show tables.invoices.countP (covers id) = 1 from one]
    exact Nat.one_pos
  obtain ⟨invoice, member, covering⟩ := List.countP_pos_iff.mp some_
  simp only [covers, Bool.and_eq_true, decide_eq_true_eq] at covering
  exact (shaped.listed invoice member).2 id covering.2

theorem complete_extends (topUpId : Int) (tables : Tables) :
    Extends tables { tables with topUps := update TopUp.id tables.topUps topUpId completedRow } := by
  refine changed_extends tables _ (fun topUp => ?_) (fun topUp success => ?_)
  · split <;> exact ⟨rfl, rfl⟩
  · split
    · rfl
    · exact success

theorem complete_shaped (shaped : Shaped tables) (topUpId : Int) :
    Shaped { tables with topUps := update TopUp.id tables.topUps topUpId completedRow } := by
  refine ⟨?_, shaped.invoices, shaped.bounded, fun invoice member => ?_, fun topUp member unpaid => ?_⟩
  · have ids : (update TopUp.id tables.topUps topUpId completedRow).map TopUp.id =
        tables.topUps.map TopUp.id := map_key_update tables.topUps topUpId fun _ => rfl
    simp only [ids]
    exact shaped.topUps
  · obtain ⟨some_, all⟩ := shaped.listed invoice member
    exact ⟨some_, fun id mine => (complete_extends topUpId tables).succeeded id (all id mine)⟩
  · obtain ⟨old, inside, rfl⟩ := List.mem_map.mp member
    split at unpaid
    · cases unpaid
    · rename_i other
      rw [if_neg other]
      exact shaped.unpaid old inside unpaid

theorem complete_covered (shaped : Shaped tables) (covered : Covered tables) (topUpId : Int) :
    Covered { tables with topUps := update TopUp.id tables.topUps topUpId completedRow } := by
  refine ⟨fun topUp member success => ?_, covered.single, fun invoice member => ?_⟩
  · obtain ⟨old, inside, rfl⟩ := List.mem_map.mp member
    have flag : old.invoiced = true ↔ coverCount tables old.id = 1 := by
      cases paid : old.success with
      | true => exact covered.flags old inside paid
      | false =>
        refine iff_of_false (by simp [shaped.unpaid old inside paid]) fun one => ?_
        rw [succeeded_top_up shaped inside (covered_succeeded shaped one)] at paid
        cases paid
    split <;> exact flag
  · exact (covered.amounts invoice member).trans (money_where_congr _ (complete_extends topUpId tables)).symm

theorem commit_keeps (shaped : Shaped tables) {memory : Memory} (fits : FitsTables tables memory)
    {after : Tables} (written : commit memory tables = some after) :
    Shaped after ∧ Extends tables after := by
  cases memory with
  | refused | drafted => cases written
  | counted invoice summed =>
    obtain rfl := Option.some.inj written
    obtain ⟨drafted, succeeded⟩ := fits
    have extends_ : Extends tables (markTopUps invoice.topUpIds true tables) := mark_extends _ _ _
    refine ⟨insert_shaped shaped drafted.some_ succeeded, extends_.money, extends_.succeeded,
      fun id row found => ⟨row, ?_, rfl, rfl⟩⟩
    refine (lookup_append_one tables.invoices _ id).trans ?_
    rw [show lookup Invoice.id tables.invoices id = some row from found, Option.some_or]
  | saving copy =>
    obtain rfl := Option.some.inj written
    obtain ⟨row, found, ids, amount⟩ := fits
    exact ⟨save_shaped shaped found ids, save_extends found ids amount⟩
  | rejecting copy =>
    obtain rfl := Option.some.inj written
    obtain ⟨⟨row, found, ids, amount⟩, -⟩ := fits
    have marked := @mark_shaped tables shaped copy.topUpIds false (by simp)
    have extends_ : Extends tables (markTopUps copy.topUpIds false tables) := mark_extends _ _ _
    have saved : Extends (markTopUps copy.topUpIds false tables)
        (saveInvoice copy (markTopUps copy.topUpIds false tables)) := save_extends found ids amount
    exact ⟨save_shaped marked found ids, extends_.money, extends_.succeeded, saved.invoices⟩
  | completing topUpId =>
    obtain rfl := Option.some.inj written
    exact ⟨complete_shaped shaped topUpId, complete_extends topUpId tables⟩

theorem commit_covered_iff (shaped : Shaped tables) (covered : Covered tables)
    (fits : FitsTables tables memory) (written : commit memory tables = some after) :
    Covered after ↔ StillCurrent memory tables := by
  cases memory with
  | refused | drafted => cases written
  | counted invoice summed =>
    obtain rfl := Option.some.inj written
    exact insert_covered_iff shaped covered fits.1 fits.2
  | saving copy =>
    obtain rfl := Option.some.inj written
    exact save_covered_iff shaped covered fits
  | rejecting copy =>
    obtain rfl := Option.some.inj written
    exact reject_covered_iff shaped covered fits.1 fits.2
  | completing topUpId =>
    obtain rfl := Option.some.inj written
    exact iff_of_true (complete_covered shaped covered topUpId) trivial

theorem refused_fits (text : String) : FitsTables tables (.refused text) := trivial

theorem saving_fits (found : tables.invoice row.id = some row)
    (id : copy.id = row.id) (ids : copy.topUpIds = row.topUpIds) (amount : copy.amount = row.amount) :
    FitsTables tables (.saving copy) :=
  ⟨row, id ▸ found, ids, amount⟩

theorem ite_fits {condition : Prop} [Decidable condition]
    (first : FitsTables tables one) (second : FitsTables tables other) :
    FitsTables tables (if condition then one else other) := by
  split
  · exact first
  · exact second

theorem sent_fits (email : String) (delivered : Bool) (now : Int)
    (found : tables.invoice row.id = some row) : FitsTables tables (sentInvoice email delivered now row) :=
  ite_fits (refused_fits _) (saving_fits found rfl rfl rfl)

theorem on_invoice_fits (id : Int) (action : Invoice → Memory)
    (copies : ∀ row, tables.invoice row.id = some row → FitsTables tables (action row)) :
    FitsTables tables (onInvoice id action tables) := by
  unfold onInvoice
  split
  · exact refused_fits _
  · rename_i row found
    obtain rfl : row.id = id := lookup_key found
    exact copies row found

theorem updated_fits (req : AdminUpdateInvoiceRequest) (now : Int)
    (found : tables.invoice row.id = some row) : FitsTables tables (updatedInvoice req now row) := by
  generalize made : updatedInvoice req now row = memory
  unfold updatedInvoice at made
  split at made
  · subst made
    exact refused_fits _
  · split at made
    · subst made
      exact refused_fits _
    · split at made
      · subst made
        exact refused_fits _
      · subst made
        exact ite_fits (refused_fits _) (ite_fits (refused_fits _) (saving_fits found rfl rfl rfl))

theorem first_read_fits (shaped : Shaped tables) (request : Request) :
    FitsTables tables (firstRead request tables) := by
  cases request with
  | create userId req now => exact draft_fits shaped userId req now
  | update_ id req now => exact on_invoice_fits id _ fun row found => updated_fits req now found
  | issue id fileUrl remark now =>
    refine on_invoice_fits id _ fun row found => ?_
    exact ite_fits (refused_fits _) (saving_fits found rfl rfl rfl)
  | reject id remark now =>
    refine on_invoice_fits id _ fun row found => ?_
    have copies : CopyOf { row with status := .rejected, remark := remark, updateTime := now } tables :=
      ⟨row, found, rfl, rfl⟩
    exact ite_fits (refused_fits _) ⟨copies, rfl⟩
  | sendByUser userId id boundEmail delivered now =>
    refine on_invoice_fits id _ fun row found => ?_
    refine ite_fits (refused_fits _) (ite_fits (refused_fits _) (ite_fits (refused_fits _) ?_))
    cases boundEmail with
    | none => exact refused_fits _
    | some email => exact ite_fits (refused_fits _) (sent_fits _ delivered now found)
  | send id email delivered now =>
    refine on_invoice_fits id _ fun row found => ?_
    exact ite_fits (refused_fits _) (ite_fits (refused_fits _) (sent_fits _ delivered now found))
  | complete topUpId => exact trivial

theorem count_fits (shaped : Shaped tables) (fits : FitsTables tables memory) :
    FitsTables tables (countTopUps tables memory) := by
  cases memory with
  | drafted invoice summed =>
    by_cases all : (invoiceable invoice.userId invoice.topUpIds tables).length = invoice.topUpIds.length
    · rw [countTopUps, if_pos all]
      exact ⟨fits, counted_all shaped all⟩
    · rw [countTopUps, if_neg all]
      exact refused_fits _
  | _ => exact fits

end Commits

/-! ## Every interleaving -/

section Runs
variable {Id : Type*} [DecidableEq Id]

omit [DecidableEq Id] in
theorem transactions_fit (requests : Id → Request) :
    StagedReads.Fits (fun id => transaction (requests id)) Shaped FitsTables where
  first := fun id _ shaped => first_read_fits shaped (requests id)
  next := fun _ _ _ shaped fits => count_fits shaped fits
  writes := fun _ _ _ _ shaped fits written => (commit_keeps shaped fits written).1
  stable := fun _ _ _ _ shaped fits written _ other => fits_extends (commit_keeps shaped fits written).2 other

/-- In every interleaving of any requests, the tables stay covered exactly when
every commit finds what it relies on. -/
theorem covered_iff (requests : Id → Request) {start : Tables} (shaped : Shaped start)
    (covered : Covered start) (events : List (StagedReads.Event Id)) :
    (∀ done, done <+: events →
        Covered (run (StagedReads.step fun id => transaction (requests id)) (idle start) done).shared) ↔
      Guarded (StagedReads.step fun id => transaction (requests id))
        (Commits (fun id => transaction (requests id)) fun _ memory tables _ => StillCurrent memory tables)
        (idle start) events :=
  always_safe_iff_fitting_commits (transactions_fit requests)
    (fun _ _ _ _ shaped covered fits written => commit_covered_iff shaped covered fits written)
    shaped covered events

end Runs

def oneTopUp : Tables := { topUps := [{ id := 5, userId := 1, money := 80 }] }

theorem one_top_up_shaped : Shaped oneTopUp where
  topUps := List.nodup_singleton _
  invoices := List.nodup_nil
  bounded := fun _ member => absurd member List.not_mem_nil
  listed := fun _ member => absurd member List.not_mem_nil
  unpaid := by decide

theorem one_top_up_covered : Covered oneTopUp where
  flags := by decide
  single := fun _ => Nat.zero_le 1
  amounts := fun _ member => absurd member List.not_mem_nil

def companyURL : String := "https://www.tianyancha.com/company/42"

def askAndEdit : Bool → Request
  | false => .create 1
      { topUpIds := [5]
        title := "ACME"
        taxId := "91310000"
        companyInfoURL := companyURL
        email := "a@b.cn" } 100
  | true => .update_ 1
      { taxId := "91310000"
        companyInfoURL := companyURL
        status := some (some .rejected)
        remark := "duplicate" } 200

def asked : List (StagedReads.Event Bool) := [.read false, .read false, .finish false]

theorem asked_stays_covered :
    Covered (run (StagedReads.step fun id => transaction (askAndEdit id)) (idle oneTopUp) asked).shared := by
  refine (covered_iff askAndEdit one_top_up_shaped one_top_up_covered asked).mpr
    ⟨trivial, trivial, fun memory after held _ => ?_, trivial⟩ asked List.prefix_rfl
  have known : (run (StagedReads.step fun id => transaction (askAndEdit id)) (idle oneTopUp)
      [.read false, .read false]).held false = some (.counted
        { userId := 1
          title := "ACME"
          taxId := "91310000"
          companyInfoURL := companyURL
          email := "a@b.cn"
          amount := 80
          topUpIds := [5]
          createTime := 100
          updateTime := 100 } [5]) := by
    decide +kernel
  obtain rfl := Option.some.inj (known.symm.trans held)
  exact ⟨by decide +kernel, by decide +kernel⟩

/-- The edit rejects the invoice and leaves the flag. -/
theorem edited_rejection_keeps_flag :
    ¬ ∀ done, done <+: asked ++ [.read true, .finish true] →
      Covered (run (StagedReads.step fun id => transaction (askAndEdit id)) (idle oneTopUp) done).shared := by
  intro all
  have covered := all _ List.prefix_rfl
  have rows : (run (StagedReads.step fun id => transaction (askAndEdit id)) (idle oneTopUp)
      (asked ++ [.read true, .finish true])).shared.topUps =
      [{ id := 5, userId := 1, money := 80, invoiced := true }] := by
    decide +kernel
  have uncovered : coverCount (run (StagedReads.step fun id => transaction (askAndEdit id)) (idle oneTopUp)
      (asked ++ [.read true, .finish true])).shared 5 = 0 := by
    decide +kernel
  have flag := (covered.flags { id := 5, userId := 1, money := 80, invoiced := true }
    (rows ▸ List.mem_singleton_self _) rfl).mp rfl
  rw [uncovered] at flag
  cases flag

end NewApi.Invoices
