import ResourceFeed.Resource.Catalog

/-! # The resources of the command line

    Contacts and accounts, as the command line knows them.
-/

namespace ResourceFeed.CommandLine

/-- A contact. -/
def contact : EntityType where
  name := "Contact"
  kind := "Contact"
  fields := [
    .writable "FirstName" "first_name" (.plain .text),
    .writable "LastName" "last_name" (.plain .text),
    .writable "Email" "email" (.optional (.plain .text)),
    .writable "WorkPhone" "work_phone" (.optional (.plain .text)),
    .writable "DoNotEmail" "do_not_email" (.plain .boolean),
    (Field.writable "CreateDate" "create_date" (.optional (.plain .instant))).readOnly,
    (Field.writable "Account" "account" (.plain .text)).relationship]

/-- An account. -/
def account : EntityType where
  name := "Account"
  kind := "Account"
  fields := [
    .writable "AccountName" "account_name" (.plain .text),
    .writable "Industry" "industry" (.optional (.plain .text)),
    .writable "Employees" "employees" (.optional (.plain .int32)),
    .writable "Revenue" "revenue" (.optional (.plain .float)),
    (Field.writable "CreateDate" "create_date" (.optional (.plain .instant))).readOnly]

/-- Contacts and accounts with their paths. -/
def catalog : Catalog :=
  (Catalog.register [] contact "contacts").register account "accounts"

end ResourceFeed.CommandLine
