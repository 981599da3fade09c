import AutoNodeRepair.Model.Aws
import AutoNodeRepair.Model.DeleteNode

/-!
# Balancing a scale-up

`utils/nodegroupset/scale_up.go`: new nodes are distributed between node groups so that
the groups come out of even size. The slice is a list here, an index out of range is
`none`, and what `sort.Slice` does to groups of one size is left open.
-/

namespace AutoNodeRepair

open Interact

/-- `ScaleUpInfo`. -/
structure ScaleUpInfo where
  group : Asg
  currentSize : Int
  newSize : Int
  maxSize : Int
  deriving DecidableEq, Repr

/-- `sort.Slice` by the current size. -/
structure SortSlice where
  sort : List ScaleUpInfo → List ScaleUpInfo
  perm : ∀ infos, (sort infos).Perm infos
  sorted : ∀ infos, (sort infos).Pairwise fun a b => a.currentSize ≤ b.currentSize

/-! ## Collecting -/

/-- The first loop of `BalanceScaleUpBetweenGroups`: the groups that are not exactly full, and
the total capacity. -/
def collectInfos :
    List Asg → List ScaleUpInfo → Int → Ctl (Except String (List ScaleUpInfo × Int))
  | [], scaleUpInfos, totalCapacity => return .ok (scaleUpInfos, totalCapacity)
  | ng :: rest, scaleUpInfos, totalCapacity => do
      match ← ng.targetSize with
      | (_, some err) => return .error err
      | (currentSize, none) =>
          let maxSize := ng.maxSize
          if currentSize = maxSize then
            -- group already maxed, ignore it
            collectInfos rest scaleUpInfos totalCapacity
          else
            collectInfos rest (scaleUpInfos ++ [⟨ng, currentSize, currentSize, maxSize⟩])
              (totalCapacity + (maxSize - currentSize))

/-! ## The balancing loop -/

/-- The variables of the loop. -/
structure BalanceState where
  scaleUpInfos : List ScaleUpInfo
  startIndex : Nat
  currentIndex : Nat
  newNodes : Int
  deriving DecidableEq, Repr

namespace BalanceState

/-- The end of a turn: on to the next group if it is smaller, back to the start if not. The
pointer `currentInfo` is one to the slot, whatever a swap has put there. -/
def updateCurrentIndex (s : BalanceState) : BalanceState :=
  match s.scaleUpInfos[s.currentIndex]?, s.scaleUpInfos[s.currentIndex + 1]? with
  | some currentInfo, some next =>
      if currentInfo.newSize > next.newSize then { s with currentIndex := s.currentIndex + 1 }
      else { s with currentIndex := s.startIndex }
  | _, _ => { s with currentIndex := s.startIndex }

/-- One turn: a node for the group on `currentIndex`, or, if it is full, the swap that takes
it out of the array. -/
def turn (s : BalanceState) : Option BalanceState :=
  match s.scaleUpInfos[s.currentIndex]? with
  | none => none
  | some currentInfo =>
      if currentInfo.newSize < currentInfo.maxSize then
        let currentInfo := { currentInfo with newSize := currentInfo.newSize + 1 }
        some ({ s with
          scaleUpInfos := s.scaleUpInfos.set s.currentIndex currentInfo
          newNodes := s.newNodes - 1 }).updateCurrentIndex
      else
        match s.scaleUpInfos[s.startIndex]? with
        | none => none
        | some startInfo =>
            some ({ s with
              scaleUpInfos :=
                (s.scaleUpInfos.set s.startIndex currentInfo).set s.currentIndex startInfo
              startIndex := s.startIndex + 1 }).updateCurrentIndex

/-- The loop, with so many turns at most. -/
def loop : Nat → BalanceState → Option BalanceState
  | 0, s => if s.newNodes > 0 then none else some s
  | fuel + 1, s => if s.newNodes > 0 then s.turn.bind (loop fuel) else some s

end BalanceState

/-- `BalanceScaleUpBetweenGroups`: the infos and the error. Each turn of the loop gives a node
away or takes a group out, which bounds the turns. -/
def balanceScaleUpBetweenGroups (sortSlice : SortSlice) (groups : List Asg) (newNodes : Int) :
    Ctl (Option (List ScaleUpInfo × Option AutorepairError)) := do
  if groups.length = 0 then
    return some ([], some ⟨.internalError, "Can't balance scale up between 0 groups"⟩)
  match ← collectInfos groups [] 0 with
  | .error err =>
      return some ([], some ⟨.cloudProviderError, s!"failed to get node group size: {err}"⟩)
  | .ok (scaleUpInfos, totalCapacity) =>
      let newNodes := if totalCapacity < newNodes then totalCapacity else newNodes
      let scaleUpInfos := sortSlice.sort scaleUpInfos
      let final := BalanceState.loop (newNodes.toNat + scaleUpInfos.length)
        ⟨scaleUpInfos, 0, 0, newNodes⟩
      return final.map fun s =>
        (s.scaleUpInfos.filter fun info => info.newSize != info.currentSize, none)

end AutoNodeRepair
