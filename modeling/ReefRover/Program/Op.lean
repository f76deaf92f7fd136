import ReefRover.Program.Expr

/-!
This module contains block programs. Each block of the editor is one operation; control blocks hold
the operations inside them, so a program is a list of trees.
-/

namespace ReefRover

inductive DriveDirection where
  | forward
  | reverse
deriving DecidableEq, Repr

inductive TurnDirection where
  | left
  | right
deriving DecidableEq, Repr

inductive DistanceUnit where
  | mm
  | inches
deriving DecidableEq, Repr

inductive PenAction where
  | down
  | up
  | setColor
deriving DecidableEq, Repr

inductive MagnetAction where
  | boost
  | drop
deriving DecidableEq, Repr

/-- A block without blocks inside it. Absent values mean the block's default. -/
inductive Action (R : Type) where
  | drive (direction : DriveDirection) (distance : Option R) (unit : Option DistanceUnit)
  | turn (direction : TurnDirection) (degrees : Option R)
  | turnToHeading (heading : Option R)
  | turnToRotation (rotation : Option R)
  | stopDriving
  | setDriveVelocity (velocity : Option R)
  | setTurnVelocity (velocity : Option R)
  | setDriveHeading (heading : Option R)
  | setDriveRotation (rotation : Option R)
  | setDriveTimeout (seconds : Option R)
  | wait (seconds : Option R)
  | pen (action : PenAction) (color : Option String)
  | magnet (action : MagnetAction)
  | print (text : String)
  | clearConsole
deriving DecidableEq, BEq, Repr

namespace Action

variable {R : Type}

def name : Action R → String
  | drive .. => "drive"
  | turn .. => "turn"
  | turnToHeading _ => "turnToHeading"
  | turnToRotation _ => "turnToRotation"
  | stopDriving => "stopDriving"
  | setDriveVelocity _ => "setDriveVelocity"
  | setTurnVelocity _ => "setTurnVelocity"
  | setDriveHeading _ => "setDriveHeading"
  | setDriveRotation _ => "setDriveRotation"
  | setDriveTimeout _ => "setDriveTimeout"
  | wait _ => "wait"
  | pen .. => "pen"
  | magnet _ => "magnet"
  | print _ => "print"
  | clearConsole => "clearConsole"

end Action

inductive Op (R : Type) where
  | action (action : Action R)
  | waitUntil (condition : Expr R)
  | repeatTimes (times : Option R) (body : List (Op R))
  | forever (body : List (Op R))
  | repeatUntil (condition : Expr R) (body : List (Op R))
  | whileDo (condition : Expr R) (body : List (Op R))
  | ifThen (condition : Expr R) (yes : List (Op R))
  | ifThenElse (condition : Expr R) (yes : List (Op R)) (otherwise : List (Op R))
  | ifElseIfElse (condition : Expr R) (yes : List (Op R)) (elseIfCondition : Expr R)
      (elseIf : List (Op R)) (otherwise : List (Op R))
  | breakLoop
  | stopProject

namespace Op

variable {R : Type}

def name : Op R → String
  | action a => a.name
  | waitUntil _ => "waitUntil"
  | repeatTimes .. => "repeatTimes"
  | forever _ => "forever"
  | repeatUntil .. => "repeatUntil"
  | whileDo .. => "while"
  | ifThen .. => "ifThen"
  | ifThenElse .. => "ifThenElse"
  | ifElseIfElse .. => "ifElseIfElse"
  | breakLoop => "break"
  | stopProject => "stopProject"

def bodies : Op R → List (List (Op R))
  | repeatTimes _ body | forever body | repeatUntil _ body | whileDo _ body => [body]
  | ifThen _ yes => [yes]
  | ifThenElse _ yes otherwise => [yes, otherwise]
  | ifElseIfElse _ yes _ elseIf otherwise => [yes, elseIf, otherwise]
  | action _ | waitUntil _ | breakLoop | stopProject => []

def conditions : Op R → List (Expr R)
  | waitUntil c | repeatUntil c _ | whileDo c _ | ifThen c _ | ifThenElse c _ _ => [c]
  | ifElseIfElse c _ d _ _ => [c, d]
  | action _ | repeatTimes .. | forever _ | breakLoop | stopProject => []

mutual

/-- Whether two blocks are the same, with numbers compared as numbers. -/
def beq [BEq R] : Op R → Op R → Bool
  | action a, action b => a == b
  | waitUntil c, waitUntil c' => c == c'
  | repeatTimes times body, repeatTimes times' body' => times == times' && bodyBEq body body'
  | forever body, forever body' => bodyBEq body body'
  | repeatUntil c body, repeatUntil c' body' => c == c' && bodyBEq body body'
  | whileDo c body, whileDo c' body' => c == c' && bodyBEq body body'
  | ifThen c yes, ifThen c' yes' => c == c' && bodyBEq yes yes'
  | ifThenElse c yes otherwise, ifThenElse c' yes' otherwise' =>
    c == c' && bodyBEq yes yes' && bodyBEq otherwise otherwise'
  | ifElseIfElse c yes d elseIf otherwise, ifElseIfElse c' yes' d' elseIf' otherwise' =>
    c == c' && bodyBEq yes yes' && d == d' && bodyBEq elseIf elseIf'
      && bodyBEq otherwise otherwise'
  | breakLoop, breakLoop => true
  | stopProject, stopProject => true
  | _, _ => false

def bodyBEq [BEq R] : List (Op R) → List (Op R) → Bool
  | [], [] => true
  | op :: ops, op' :: ops' => op.beq op' && bodyBEq ops ops'
  | _, _ => false

end

instance [BEq R] : BEq (Op R) := ⟨beq⟩

/-! The blocks most often built by hand. -/

def drive (direction : DriveDirection) (distance : R) (unit : DistanceUnit) : Op R :=
  .action (.drive direction (some distance) (some unit))

def driveDefault (direction : DriveDirection) : Op R :=
  .action (.drive direction none none)

def turn (direction : TurnDirection) (degrees : R) : Op R :=
  .action (.turn direction (some degrees))

def turnToRotation (rotation : R) : Op R :=
  .action (.turnToRotation (some rotation))

def turnToHeading (heading : R) : Op R :=
  .action (.turnToHeading (some heading))

def wait (seconds : R) : Op R :=
  .action (.wait (some seconds))

def setDriveVelocity (velocity : R) : Op R :=
  .action (.setDriveVelocity (some velocity))

def print (text : String) : Op R :=
  .action (.print text)

def repeatCount [Scalar R] (times : Nat) (body : List (Op R)) : Op R :=
  .repeatTimes (some (Scalar.ofNat times)) body

end Op

abbrev Program (R : Type) := List (Op R)

end ReefRover
