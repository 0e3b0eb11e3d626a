import FreeNAS.Storage.VdevForm
import FreeNAS.Storage.VdevLayout
import FreeNAS.Storage.VdevExtension
import FreeNAS.Storage.Orm
import FreeNAS.Storage.VolumeManager
import FreeNAS.Storage.Rollback
import FreeNAS.Storage.Passphrase
import FreeNAS.Storage.DiskNames
import FreeNAS.Python.Str
import FreeNAS.Storage.DiskBulk
import FreeNAS.Storage.SizeFields
import FreeNAS.Python.Int
import FreeNAS.Middleware.Cron
import FreeNAS.Storage.DatasetEdit
import FreeNAS.Storage.AutoImport
import FreeNAS.Storage.ZvolCreate
import FreeNAS.Python.Re
import FreeNAS.Django.Forms
import FreeNAS.Storage.Snapshot
import FreeNAS.Storage.PassphraseForms
import FreeNAS.Storage.TimeFields
import FreeNAS.Storage.DiskChoices
import FreeNAS.Storage.WizardForm
import FreeNAS.Storage.DatasetCreate
import FreeNAS.Storage.ManagerForm
