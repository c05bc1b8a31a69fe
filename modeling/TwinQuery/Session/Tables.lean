import TwinQuery.Response.Summary
import TwinQuery.Session.Basic

/-!
# The table endpoints

Each of the four endpoints takes a request body and answers with rows or a summary. A
statement is validated before its request is sent.
-/

namespace TwinQuery.Tables

open SessionM

variable {σ : Type} [Service σ]

/-- Send a read request. A failure that the service reports is raised. -/
def query (request : QueryRequest) : SessionM σ Response.Rows := do
  note (.tableQuery request.table.text request.limit?)
  let answer ← send { method := .post, path := "/tables/query", body? := some request.toJson }
  let rows ← Response.Rows.ofJson answer
  rows.checked

def insert (request : InsertRequest) : SessionM σ Response.InsertSummary := do
  note (.tableInsert request.table.text request.records.length)
  let answer ← send { method := .post, path := "/tables/insert", body? := some request.toJson }
  Response.InsertSummary.ofJson answer

def update (request : UpdateRequest) : SessionM σ Response.UpdateSummary := do
  note (.tableUpdate request.table.text request.updates.length)
  let answer ← send { method := .put, path := "/tables/update", body? := some request.toJson }
  Response.UpdateSummary.ofJson answer

def delete (request : DeleteRequest) : SessionM σ Response.DeleteSummary := do
  note (.tableDelete request.table.text request.filters.length)
  let answer ← send { method := .delete, path := "/tables/delete", body? := some request.toJson }
  Response.DeleteSummary.ofJson answer

def select (statement : Select) : SessionM σ Response.Rows := do
  statement.validate
  query statement.request

def insertWith (statement : Insert) : SessionM σ Response.InsertSummary := do
  statement.validate
  insert statement.request

def updateWith (statement : Update) : SessionM σ Response.UpdateSummary := do
  statement.validate
  update statement.request

def deleteWith (statement : Delete) : SessionM σ Response.DeleteSummary := do
  statement.validate
  delete statement.request

/-- The text of the table endpoints in diagnostics. -/
def debug : String := "TableResource \x7b .. \x7d"

end TwinQuery.Tables
