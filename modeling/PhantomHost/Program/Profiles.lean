import PhantomHost.Program.Basic
/-!
The commands for saved connections.
-/
namespace PhantomHost.Program

open PhantomHost.Text

/-- Writes the line of a profile. -/
def printRow (profile : Profile) : Act Unit :=
  match profile.tableRow with
  | .ok row => print row
  | .error fault => fail (.cell fault)

def listProfiles : Act Int := do
  let found ← onProfiles ProfileStore.load
  if found.isEmpty then
    print "No saved profiles."
  else
    print ""
    print Profile.tableHead
    print Profile.tableRule
    found.forM printRow
    print ""
  return 0

def saveProfile (draft : ProfileDraft) : Act Int := do
  match ← onWorld ((← profiles).save draft) with
  | .ok profile =>
    print ("Saved profile " ++ profile.id.shown ++ " (" ++ profile.label.shown ++ ")")
    return 0
  | .error fault =>
    match fault.mendable? with
    | some message =>
      print ("Error: " ++ message)
      return 1
    | none => fail (.store fault)

/-- The wording for an id that no profile has. -/
def unknownProfile (id : Json) : Text :=
  "Profile not found: " ++ id.shown

def deleteProfile (id : Json) : Act Int := do
  if ← onProfiles fun store world => store.delete id world then
    print ("Deleted profile " ++ id.shown)
    return 0
  else
    print (unknownProfile id)
    return 1

end PhantomHost.Program
