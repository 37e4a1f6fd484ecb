import Mathlib.Algebra.GroupWithZero.Nat
import Mathlib.Algebra.Ring.Int.Defs
import SeekTalent.Query.Plan

/-!
# The explore query

The second lane of a round explores: `derive_explore_query_terms` keeps the anchor of the exploit
query and looks for one or two other terms beside it. Terms are ranked by how often they were
sent, combinations by how much they share with the exploit query, and one that was not sent is
preferred. Queries are compared as lists of terms, in the order they are written.
-/

namespace SeekTalent

namespace Explore

/-- `itertools.combinations(items, 2)` -/
def pairs {α : Type} : List α → List (List α)
  | [] => []
  | a :: rest => rest.map (fun b => [a, b]) ++ pairs rest

def combinations {α : Type} (items : List α) : List (List α) := items.map (fun a => [a]) ++ pairs items

section Derive

variable (tables : Py.UnicodeTables)

def queryKeys (terms : List String) : List String := terms.map (Py.casefold tables)

/-- The keys of `unique_logical_queries`: a query of a round counts once, however many cities it
was sent for. -/
def logicalQueries (history : List SentQueryRecord) : List (Nat × List String) :=
  (history.map fun record => (record.roundNo, queryKeys tables record.queryTerms)).dedup

def usedQueries (history : List SentQueryRecord) : List (List String) :=
  (logicalQueries tables history).map (·.2)

/-- `term_usage.get(term, 0)` -/
def termUsage (history : List SentQueryRecord) (anchorKey term : String) : Nat :=
  if term = anchorKey then 0 else ((usedQueries tables history).map (·.count term)).sum

/-- What a run of `derive_explore_query_terms` has found out before it ranks anything. -/
structure Setting where
  anchor : QueryTermCandidate
  exploitKeys : List String
  exploitTermKeys : List String
  pool : List QueryTermCandidate
  history : List SentQueryRecord

namespace Setting

variable (s : Setting)

def usage (term : String) : Nat := termUsage tables s.history (Py.casefold tables s.anchor.term) term

/-- The key of `ordered_terms`. -/
def orderKey (item : QueryTermCandidate) : Int ×ₗ Int ×ₗ Int ×ₗ Int ×ₗ Int ×ₗ Int ×ₗ String :=
  let key := Py.casefold tables item.term
  toLex (if item.active ∧ key ∉ s.exploitTermKeys then 0 else 1,
    toLex (if ¬item.active ∧ key ∉ s.exploitTermKeys then 0 else 1,
      toLex ((s.usage tables key : Int), nonAnchorSortKey tables item)))

def orderedTerms : List QueryTermCandidate :=
  Py.sortedBy (s.orderKey tables) (s.pool.filter fun item =>
    item.queryability = .admitted ∧ ¬item.IsTitleAnchor)

/-- `term_rank`, where the last place of a key counts. -/
def termRank (key : String) : Nat :=
  let keys := (s.orderedTerms tables).map fun item => Py.casefold tables item.term
  keys.length - 1 - keys.reverse.idxOf key

def scoreCombo (combo : List QueryTermCandidate) : Int ×ₗ Int ×ₗ Int ×ₗ Int ×ₗ List String :=
  let comboTerms := combo.map fun item => Py.casefold tables item.term
  toLex ((comboTerms.countP (· ∈ s.exploitTermKeys) : Int),
    toLex (((comboTerms.map (s.usage tables)).sum : Int),
      toLex (((comboTerms.map (s.termRank tables)).sum : Int),
        toLex (-(comboTerms.length : Int), comboTerms))))

/-- A combination that is considered, with its score and its terms; `none` where it is passed
over. -/
def consider (combo : List QueryTermCandidate) :
    Except String (Option ((Int ×ₗ Int ×ₗ Int ×ₗ Int ×ₗ List String) × List String)) :=
  let candidates := s.anchor :: combo
  let termKeys := candidates.map fun item => Py.casefold tables item.term
  if ¬termKeys.Nodup ∨ duplicateFamilies tables candidates ≠ [] then .ok none
  else do
    let candidateTerms ← canonicalizeControllerQueryTerms tables
      { allowInactiveNonAnchorTerms := true } (candidates.map (·.term)) 2 s.pool
    if queryKeys tables candidateTerms = s.exploitKeys then return none
    else return some (s.scoreCombo tables combo, candidateTerms)

def best : Except String (Option (List String)) := do
  let considered := (← (combinations (s.orderedTerms tables)).mapM (s.consider tables)).reduceOption
  let used := usedQueries tables s.history
  let unusedCandidates := considered.filter fun entry => queryKeys tables entry.2 ∉ used
  let usedCandidates := considered.filter fun entry => queryKeys tables entry.2 ∈ used
  match Py.minBy (·.1) unusedCandidates with
  | some entry => return some entry.2
  | none => return (Py.minBy (·.1) usedCandidates).map (·.2)

end Setting

/-- `term_index[key]` -/
def lookUp (pool : List QueryTermCandidate) (key : String) : Except String QueryTermCandidate :=
  match queryTermIndex tables pool key with
  | some item => .ok item
  | none => .error key

end Derive

end Explore

open Explore

def deriveExploreQueryTerms (tables : Py.UnicodeTables) (exploitTerms : List String)
    (pool : List QueryTermCandidate) (history : List SentQueryRecord) :
    Except String (Option (List String)) := do
  let exploitTerms ← canonicalizeControllerQueryTerms tables
    { allowInactiveNonAnchorTerms := true } ((exploitTerms.map normalizeTerm).filter (· ≠ "")) 2 pool
  let exploitCandidates ← exploitTerms.mapM fun term => lookUp tables pool (Py.casefold tables term)
  match exploitCandidates.find? (·.IsTitleAnchor) with
  | none => .error "StopIteration"
  | some anchor =>
    let exploitNonAnchorTerms := (exploitCandidates.filter fun item =>
      Py.casefold tables item.term ≠ Py.casefold tables anchor.term).map (·.term)
    if exploitNonAnchorTerms = [] then return none
    else
      let setting : Setting :=
        { anchor, exploitKeys := queryKeys tables exploitTerms
          exploitTermKeys := queryKeys tables exploitNonAnchorTerms, pool, history }
      setting.best tables

end SeekTalent
