import CellWalk.Files.Path
import CellWalk.Grid
import CellWalk.History
import CellWalk.Setting
import CellWalk.Text.Quoted

/-!
# Configuration

What is settled before a game: the grid, when direction masks bind, how much can be undone, the
seed of random programs and the place of the saved progress.
-/

namespace CellWalk
set_option autoImplicit false

/-- When masks bind: on levels only, always, or never. -/
inductive DirectionPolicy
  | auto
  | on
  | off
deriving DecidableEq, Repr, Inhabited

namespace DirectionPolicy

def all : List DirectionPolicy := [.auto, .on, .off]

def name : DirectionPolicy → String
  | .auto => "auto"
  | .on => "on"
  | .off => "off"

def ofName? (name : Text) : Option DirectionPolicy :=
  all.find? fun p => Text.ofString p.name == name

/-- Whether masks bind on a level or on a random program. -/
def enforces (p : DirectionPolicy) (authored : Bool) : Bool :=
  match p with
  | .auto => authored
  | .on => true
  | .off => false

end DirectionPolicy

/-- Settings that no game has. -/
inductive ConfigError
  | policy (name : Text)
  /-- The policy is given without a value. -/
  | noPolicy
  | grid (cols rows : Int)
  | historyLimit (limit : Int)
  /-- The limit of the history is given without a value. -/
  | noLimit
deriving DecidableEq

/-- How it is told that a policy is none of the three. -/
def ConfigError.policyMessage (got : String) : String :=
  "directions must be one of ('auto', 'on', 'off'), got " ++ got

/-- What is told about the error, if it is ever told. -/
def ConfigError.message? : ConfigError → Option String
  | .policy name => some (policyMessage (Text.quoted name))
  | .noPolicy => some (policyMessage Setting.voidText)
  | .grid cols rows => some s!"Grid {cols}x{rows} must hold 1..256 cells"
  | .historyLimit limit => some s!"history_limit must be positive, got {limit}"
  | .noLimit => none

structure Config where
  grid : Grid
  cells_le : grid.cells ≤ 256
  policy : DirectionPolicy
  historyLimit : Option { n : Nat // 0 < n }
  /-- The seed of random programs; without a value there are none. -/
  seed : Setting Int
  statePath : Option Path

instance : DecidableEq Config := fun a b =>
  decidable_of_iff (a.grid = b.grid ∧ a.policy = b.policy ∧ a.historyLimit = b.historyLimit ∧
    a.seed = b.seed ∧ a.statePath = b.statePath) (by cases a; cases b; simp)

namespace Config

/-- The settings before they are checked. -/
structure Draft where
  cols : Int
  rows : Int
  policy : Setting Text
  historyLimit : Setting Int
  seed : Setting Int
  statePath : Option Path

/-- The settings of a game for which nothing is asked. -/
def Draft.standard : Draft := ⟨13, 13, .unset, .unset, .unset, none⟩

/-- A policy that is checked to be one of the three. -/
def checkPolicy : Setting Text → Except ConfigError DirectionPolicy
  | .unset => .ok .auto
  | .void => .error .noPolicy
  | .value name =>
    match DirectionPolicy.ofName? name with
    | some policy => .ok policy
    | none => .error (.policy name)

/-- A limit that is checked to be positive. -/
def checkLimit : Setting Int → Except ConfigError (Option { n : Nat // 0 < n })
  | .unset => .ok none
  | .void => .error .noLimit
  | .value n => if h : 0 < n.toNat then .ok (some ⟨n.toNat, h⟩) else .error (.historyLimit n)

/-- The settings, if the policy is known, the grid has 1 to 256 cells and the limit is positive;
otherwise the first that is not so, in this order. -/
def create (d : Draft) : Except ConfigError Config :=
  match checkPolicy d.policy with
  | .error e => .error e
  | .ok policy =>
    if h : 0 < d.cols.toNat ∧ 0 < d.rows.toNat then
      let grid : Grid := ⟨d.cols.toNat, d.rows.toNat, h.1, h.2⟩
      if fits : grid.cells ≤ 256 then
        match checkLimit d.historyLimit with
        | .error e => .error e
        | .ok limit => .ok ⟨grid, fits, policy, limit, d.seed, d.statePath⟩
      else .error (.grid d.cols d.rows)
    else .error (.grid d.cols d.rows)

end Config

end CellWalk
