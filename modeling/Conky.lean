import Conky.Libc
import Conky.X11.Server
import Conky.X11.WindowList
import Conky.X11.Propagate
import Conky.X11.Desktop
import Conky.X11.DesktopRuns
import Conky.X11.Struts
import Conky.X11.OwnWindow
import Conky.X11.WindowTree
import Conky.X11.Print
import Conky.Hardware.I8k
