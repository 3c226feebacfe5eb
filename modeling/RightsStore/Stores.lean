import RightsStore.LicenseStore
import RightsStore.Stream

namespace RightsStore

def contentItem (r : ContentRow) : Except Failure Item := r.read.map .content

def licenseItem (r : LicenseRow) : Except Failure Item := r.read.map .report

namespace Program

def getContent (id : Datum) : Program Content := do
  let found ← connected fun _ => inquire (ContentIndex.find · id)
  ContentIndex.readFound found

def getLicense (id : Datum) : Program License := do
  let found ← connected fun _ => inquire (LicenseStore.find · id)
  LicenseStore.readFound found

def write (x : Command Unit) (e : Event) : Program Unit := do
  transaction (execute x)
  say e

def addContent (c : Content) : Program Unit := write (ContentIndex.insertion c) (.contentAdded c.id)

def updateContent (c : Content) : Program Unit :=
  write (ContentIndex.replacement c) (.contentUpdated c.id)

def addLicense (enforce : Bool) (l : License) : Program Unit := do
  let user ← l.requireUser
  write (LicenseStore.insertion enforce l user) (.licenseAdded l.id l.contentId)

def updateLicense (enforce : Bool) (l : License) (clock : Moment) : Program Unit := do
  let user ← l.requireUser
  let now ← LicenseStore.now clock
  write (LicenseStore.amendment enforce l user now) (.licenseUpdated l.id)

/-- That no license was changed is seen when the transaction is over. -/
def updateRights (l : License) (clock : Moment) : Program Unit := do
  let now ← LicenseStore.now clock
  let changed ← transaction (execute (LicenseStore.regrant l now))
  if changed = 0 then throw (.notFound .license)
  else say (.rightsUpdated l.id)

def setStatus (id status : Datum) : Program Unit :=
  write (LicenseStore.restatement id status) (.statusSet id status)

def contents : Program Stream := Stream.opened ContentIndex.list contentItem

def licenses (contentId size number : Datum) : Program Stream := do
  let page ← Page.of size number
  Stream.opened (LicenseStore.listPage contentId page) licenseItem

def allLicenses (size number : Datum) : Program Stream := do
  let page ← Page.of size number
  Stream.opened (LicenseStore.listAllPage page) licenseItem

def readAll (x : Program Stream) : Program (List Item) := do
  let t ← x
  fun w =>
    match Stream.drain ⟨t, w⟩ with
    | .ok items u => .ok items u.world
    | .error .stop u => .ok [] u.world
    | .error (.failed f) u => .error f u.world

end Program

end RightsStore
