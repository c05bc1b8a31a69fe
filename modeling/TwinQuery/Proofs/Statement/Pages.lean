import TwinQuery.Proofs.Statement.Agreement
import TwinQuery.Session.TableQuery

/-!
# Pages of rows

Pages are counted in 64 bits and their first rows are clamped to them. The clamps meet no row that
a page could show twice or leave out: below the largest number of 64 bits every row is on one page,
the one that its number divided by the size gives, and both forms of the statement say which rows
the page has: `Select.pages_partition`.
-/

namespace TwinQuery

namespace Select

/-- How many rows a page holds. -/
def pageSize (perPage : UInt64) : UInt64 :=
  max perPage 1

/-- The first row of a page, counted from zero, as far as 64 bits reach. -/
def pageStart (page perPage : UInt64) : UInt64 :=
  saturatingMul (max page 1 - 1) (pageSize perPage)

/-- A read shows a row, counted from zero. The end of what it shows may be beyond 64 bits. -/
def Shows (select : Select) (row : Nat) : Prop :=
  ∃ limit offset, select.limit? = some limit ∧ select.offset? = some offset ∧
    offset.toNat ≤ row ∧ row < offset.toNat + limit.toNat

def unpaged (select : Select) : Select :=
  { select with limit? := none, offset? := none }

/-! ## Numbers of 64 bits -/

/-- The product stops at the largest number of 64 bits. -/
theorem toNat_saturatingMul (a b : UInt64) :
    (saturatingMul a b).toNat = min (a.toNat * b.toNat) (2 ^ 64 - 1) := by
  unfold saturatingMul
  split
  next hfits =>
    rw [UInt64.toNat_mul, Nat.mod_eq_of_lt hfits]
    exact (Nat.min_eq_left (Nat.le_sub_one_of_lt hfits)).symm
  next hlarge =>
    have hlargest : (UInt64.ofNat (UInt64.size - 1)).toNat = 2 ^ 64 - 1 := rfl
    rw [hlargest]
    exact (Nat.min_eq_right (Nat.le_trans (Nat.sub_le _ _) (Nat.le_of_not_lt hlarge))).symm

theorem toNat_pageSize (perPage : UInt64) : (pageSize perPage).toNat = max perPage.toNat 1 :=
  UInt64.toNat_max perPage 1

theorem one_le_pageSize (perPage : UInt64) : 1 ≤ (pageSize perPage).toNat := by
  rw [toNat_pageSize]
  exact Nat.le_max_right _ _

/-- A page starts behind the rows of the pages before it, or at the largest number of 64 bits. -/
theorem toNat_pageStart (page perPage : UInt64) :
    (pageStart page perPage).toNat =
      min ((page.toNat - 1) * (pageSize perPage).toNat) (2 ^ 64 - 1) := by
  have hone : (1 : UInt64) ≤ max page 1 := by
    rw [UInt64.le_iff_toNat_le, UInt64.toNat_max]
    exact Nat.le_max_right _ _
  have hbefore : (max page 1 - 1).toNat = page.toNat - 1 := by
    rw [UInt64.toNat_sub_of_le _ _ hone, UInt64.toNat_max]
    have hnat : (1 : UInt64).toNat = 1 := rfl
    omega
  rw [pageStart, toNat_saturatingMul, hbefore]

/-- Pages that begin beyond 64 bits are clamped to one place. -/
example : pageStart 3 0x8000000000000000 = pageStart 4 0x8000000000000000 := by decide

/-- A later page does not start before an earlier one. -/
theorem pageStart_mono {page later : UInt64} (hpage : page ≤ later) (perPage : UInt64) :
    pageStart page perPage ≤ pageStart later perPage := by
  have hbefore : page.toNat - 1 ≤ later.toNat - 1 :=
    Nat.sub_le_sub_right (UInt64.le_iff_toNat_le.1 hpage) 1
  have hrows := Nat.mul_le_mul_right (pageSize perPage).toNat hbefore
  rw [UInt64.le_iff_toNat_le, toNat_pageStart, toNat_pageStart]
  omega

/-! ## The rows of a page -/

section Rows

variable (select : Select) (perPage : UInt64)

/-- A page shows the rows from its start on, as many as it holds. -/
theorem shows_paginate_iff (page : UInt64) (row : Nat) :
    (select.paginate page perPage).Shows row ↔
      (pageStart page perPage).toNat ≤ row ∧
        row < (pageStart page perPage).toNat + (pageSize perPage).toNat := by
  constructor
  · rintro ⟨limit, offset, hlimit, hoffset, hrow⟩
    cases hlimit
    cases hoffset
    exact hrow
  · intro hrow
    exact ⟨_, _, rfl, rfl, hrow⟩

/-- Below the largest number of 64 bits a row is shown by the page that its number divided by the
size gives, and by no other one. A page that is clamped starts behind the row. -/
theorem shows_iff_div {page : UInt64} (hpage : 1 ≤ page) {row : Nat} (hrow : row < 2 ^ 64 - 1) :
    (select.paginate page perPage).Shows row ↔
      page.toNat = row / (pageSize perPage).toNat + 1 := by
  have hsize := one_le_pageSize perPage
  have hone : 1 ≤ page.toNat := UInt64.le_iff_toNat_le.1 hpage
  obtain ⟨before, hbefore⟩ : ∃ before, page.toNat = before + 1 :=
    ⟨page.toNat - 1, (Nat.sub_add_cancel hone).symm⟩
  have hstart := toNat_pageStart page perPage
  rw [hbefore, Nat.add_sub_cancel] at hstart
  rw [shows_paginate_iff, hstart, hbefore, Nat.add_right_cancel_iff, eq_comm,
    Nat.div_eq_iff (Nat.pos_of_ne_zero (Nat.one_le_iff_ne_zero.1 hsize))]
  generalize before * (pageSize perPage).toNat = rows
  omega

/-- The page of a row is a number of 64 bits. -/
theorem exists_page {row : Nat} (hrow : row < 2 ^ 64 - 1) :
    ∃ page : UInt64, 1 ≤ page ∧ page.toNat = row / (pageSize perPage).toNat + 1 := by
  have hle := Nat.div_le_self row (pageSize perPage).toNat
  have hfits : row / (pageSize perPage).toNat + 1 < UInt64.size := by
    unfold UInt64.size
    omega
  have hpage := UInt64.toNat_ofNat_of_lt' hfits
  refine ⟨_, ?_, hpage⟩
  rw [UInt64.le_iff_toNat_le, hpage]
  exact Nat.le_add_left 1 _

end Rows

/-! ## Both forms -/

/-- The page stands at the end of the text, behind what the text says without it. -/
theorem render_paged {select : Select} {limit offset : UInt64} (hfault : select.fault? = none)
    (hlimit : select.limit? = some limit) (hoffset : select.offset? = some offset)
    (bindings : Bindings) :
    (Statement.select select).render bindings =
      (((Statement.select select.unpaged).render bindings).1 ++
          " LIMIT " ++ limit.toNat.repr ++ " OFFSET " ++ offset.toNat.repr,
        ((Statement.select select.unpaged).render bindings).2) := by
  have htemplate : select.template = select.unpaged.template ++
      [.text (" LIMIT " ++ limit.toNat.repr), .text (" OFFSET " ++ offset.toNat.repr)] := by
    have hunpaged : select.unpaged.fault? = none := hfault
    unfold template
    rw [hfault, hunpaged, hlimit, hoffset]
    simp [unpaged, numberTail, sortTail]
  change bindings.fill select.template = _
  rw [htemplate, Bindings.fill_append]
  simp [Bindings.fill, Statement.render, Statement.template, String.append_assoc]

/-- What the pages of one size of a read are. -/
structure Pages (select : Select) (perPage : UInt64) : Prop where
  /-- A page has the size that was asked for, but one row at least. -/
  limit : ∀ page, (select.paginate page perPage).limit? = some (pageSize perPage)
  size : (pageSize perPage).toNat = max perPage.toNat 1
  offset : ∀ page, (select.paginate page perPage).offset? = some (pageStart page perPage)
  /-- The first row is counted without wrapping around. -/
  start : ∀ page, (pageStart page perPage).toNat =
    min ((page.toNat - 1) * (pageSize perPage).toNat) (2 ^ 64 - 1)
  mono : ∀ page later, page ≤ later → pageStart page perPage ≤ pageStart later perPage
  /-- Page zero is the first page. -/
  zero : select.paginate 0 perPage = select.paginate 1 perPage
  /-- One page shows the row. -/
  row : ∀ row < 2 ^ 64 - 1, ∃ page, page.toNat = row / (pageSize perPage).toNat + 1 ∧
    ∀ other, 1 ≤ other ∧ (select.paginate other perPage).Shows row ↔ other = page
  /-- The text of a page is the text of the read, followed by the page. -/
  text : select.fault? = none → ∀ page bindings,
    (Statement.select (select.paginate page perPage)).render bindings =
      (((Statement.select select.unpaged).render bindings).1 ++
          " LIMIT " ++ (pageSize perPage).toNat.repr ++
          " OFFSET " ++ (pageStart page perPage).toNat.repr,
        ((Statement.select select.unpaged).render bindings).2)
  body_limit : ∀ page, (select.paginate page perPage).request.toJson.field? "limit" =
    some (unsignedJson (pageSize perPage))
  body_offset : ∀ page, (select.paginate page perPage).request.toJson.field? "offset" =
    some (unsignedJson (pageStart page perPage))
  /-- A statement that met a fault has no text, on any page. -/
  no_text : select.fault? ≠ none → ∀ page bindings,
    (Statement.select (select.paginate page perPage)).render bindings = ("", bindings)
  /-- A page of a table query is the page of its read. -/
  query : ∀ page, TableQuery.apply ⟨select⟩ (.paginate page perPage) =
    .ok ⟨select.paginate page perPage⟩

/-- Whatever the size that is asked for, the pages of a read share out its rows: each is on one page
and no two pages show it. -/
theorem pages_partition (select : Select) (perPage : UInt64) : select.Pages perPage := by
  constructor
  case limit => exact fun page => rfl
  case size => exact toNat_pageSize perPage
  case offset => exact fun page => rfl
  case start => exact fun page => toNat_pageStart page perPage
  case mono => exact fun page later hpage => pageStart_mono hpage perPage
  case zero => rfl
  case row =>
    intro row hrow
    obtain ⟨page, hone, hpage⟩ := exists_page perPage hrow
    refine ⟨page, hpage, fun other => ⟨?_, ?_⟩⟩
    · rintro ⟨hother, hshows⟩
      rw [shows_iff_div select perPage hother hrow, ← hpage] at hshows
      exact UInt64.toNat_inj.1 hshows
    · rintro rfl
      exact ⟨hone, (shows_iff_div select perPage hone hrow).2 hpage⟩
  case text => exact fun hfault page => render_paged hfault rfl rfl
  case body_limit =>
    intro page
    rw [(QueryRequest.field?_toJson _).2.2.2.2.1]
    rfl
  case body_offset =>
    intro page
    rw [(QueryRequest.field?_toJson _).2.2.2.2.2]
    rfl
  case no_text =>
    intro hfault page bindings
    have htemplate : (select.paginate page perPage).template = [] :=
      if_pos (Option.isSome_iff_ne_none.2 hfault)
    change bindings.fill (select.paginate page perPage).template = _
    rw [htemplate]
    rfl
  case query => exact fun page => rfl

end Select

end TwinQuery
